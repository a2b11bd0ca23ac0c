import Mathlib.Data.List.Induction
import Resemblance.Temperature

/-!
What a temperature label says. Of the values that follow the name of a parameter the last one
counts, whether it is a number or not. So a malformed value is not passed over: it takes back what
stood before it, and a label says the same with and without it exactly where there was nothing to
take back.
-/

namespace Resemblance.Temperature

/-- What a label can set. -/
inductive Parameter where
  | temperature
  | topK
  | topP
  deriving DecidableEq, Repr

namespace Parameter

def key : Parameter → String
  | temperature => "temp"
  | topK => "k"
  | topP => "p"

/-- Whether a value is a number of the kind that the parameter takes. -/
def reads (parameter : Parameter) (value : String) : Bool :=
  match parameter with
  | topK => (Decimal.readNat? iterationBound value).isSome
  | _ => (Decimal.readFloat? value).isSome

def isSet (parameter : Parameter) (parameters : Temperature) : Bool :=
  match parameter with
  | temperature => parameters.temperature.isSome
  | topK => parameters.topK.isSome
  | topP => parameters.topP.isSome

end Parameter

def without (parameters : Temperature) : Parameter → Temperature
  | .temperature => { parameters with temperature := none }
  | .topK => { parameters with topK := none }
  | .topP => { parameters with topP := none }

def names (label : String) : List String :=
  (segments label.toList).map String.ofList

def pairs (names : List String) : List (String × String) :=
  names.zip names.tail

/-- The segments that follow a segment of the given name. -/
def valuesBehind (name : String) (names : List String) : List String :=
  ((pairs names).filter fun pair => pair.1 == name).map Prod.snd

section Segments

theorem segments_eq_split (cs : List Char) : segments cs = cs.splitOn '_' := by
  induction cs with
  | nil => rfl
  | cons c rest ih =>
      obtain ⟨segment, more, split⟩ :=
        List.exists_cons_of_ne_nil (List.splitOnP_ne_nil (· == '_') rest)
      have cut : rest.splitOn '_' = segment :: more := split
      rw [segments, ih, List.splitOn_cons_eq_if_modifyHead, cut]
      simp only [beq_iff_eq, List.modifyHead_cons]

theorem names_append (front back : String) :
    names (front ++ "_" ++ back) = names front ++ names back := by
  have chars : (front ++ "_" ++ back).toList = front.toList ++ '_' :: back.toList := by
    simp [String.toList_append]
  rw [names, chars, segments_eq_split, List.splitOn_append_cons_self, List.map_append, names, names,
    segments_eq_split, segments_eq_split]

theorem names_single {segment : String} (whole : '_' ∉ segment.toList) :
    names segment = [segment] := by
  rw [names, segments_eq_split, List.splitOn_eq_singleton whole, List.map_singleton,
    String.ofList_toList]

theorem names_ne_nil (label : String) : names label ≠ [] := by
  rw [names, segments_eq_split]
  exact fun none => List.splitOnP_ne_nil _ _ (List.map_eq_nil_iff.1 none)

theorem key_whole (parameter : Parameter) : '_' ∉ parameter.key.toList := by
  cases parameter with
  | temperature => decide
  | topK => decide
  | topP => decide

theorem names_extended {value : String} (label : String) (parameter : Parameter)
    (whole : '_' ∉ value.toList) :
    names (label ++ "_" ++ parameter.key ++ "_" ++ value) =
      names label ++ [parameter.key, value] := by
  rw [names_append, names_append, names_single (key_whole parameter), names_single whole,
    List.append_assoc]
  rfl

end Segments

section Pairs

theorem pairs_concat (rest : List String) (last next : String) :
    pairs (rest ++ [last] ++ [next]) = pairs (rest ++ [last]) ++ [(last, next)] := by
  induction rest with
  | nil => rfl
  | cons first rest ih =>
      cases rest with
      | nil => rfl
      | cons second rest => exact congrArg ((first, second) :: ·) ih

theorem assign_all_eq (parameters : Temperature) (names : List String) :
    assignAll parameters names =
      (pairs names).foldl (fun parameters pair => parameters.assign pair.1 pair.2) parameters := by
  induction names generalizing parameters with
  | nil => rfl
  | cons first rest ih =>
      cases rest with
      | nil => rfl
      | cons second rest => exact ih (parameters.assign first second)

end Pairs

section Assignments

variable {parameter : Parameter} {name value : String}

theorem assign_other (other : ∀ parameter : Parameter, name ≠ parameter.key)
    (parameters : Temperature) :
    parameters.assign name value = parameters := by
  have temperature := other .temperature
  have topK := other .topK
  have topP := other .topP
  simp only [Parameter.key] at temperature topK topP
  rw [assign, if_neg (by simpa using temperature), if_neg (by simpa using topK),
    if_neg (by simpa using topP)]

theorem assign_malformed (malformed : parameter.reads value = false) (parameters : Temperature) :
    parameters.assign parameter.key value = parameters.without parameter := by
  cases parameter with
  | temperature =>
      have unread : Decimal.readFloat? value = none := by simpa [Parameter.reads] using malformed
      rw [assign, Parameter.key, if_pos (by decide), unread, without]
  | topK =>
      have unread : Decimal.readNat? iterationBound value = none := by
        simpa [Parameter.reads] using malformed
      rw [assign, Parameter.key, if_neg (by decide), if_pos (by decide), unread, without]
  | topP =>
      have unread : Decimal.readFloat? value = none := by simpa [Parameter.reads] using malformed
      rw [assign, Parameter.key, if_neg (by decide), if_neg (by decide), if_pos (by decide),
        unread, without]

theorem assign_is_set (parameter : Parameter) (parameters : Temperature) (name value : String) :
    parameter.isSet (parameters.assign name value) =
      if name == parameter.key then parameter.reads value else parameter.isSet parameters := by
  by_cases known : ∃ named : Parameter, name = named.key
  · obtain ⟨named, rfl⟩ := known
    cases named <;> cases parameter <;> rfl
  · rw [assign_other (fun named same => known ⟨named, same⟩), if_neg]
    exact fun same => known ⟨parameter, eq_of_beq same⟩

theorem without_eq_iff (parameter : Parameter) (parameters : Temperature) :
    parameters.without parameter = parameters ↔ parameter.isSet parameters = false := by
  rw [← Bool.not_eq_true]
  constructor
  · intro same
    rw [← same]
    cases parameter <;> exact Bool.false_ne_true
  · intro unset
    obtain ⟨temperature, topK, topP⟩ := parameters
    cases parameter with
    | temperature =>
        obtain rfl : temperature = none := Option.not_isSome_iff_eq_none.1 unset
        rfl
    | topK =>
        obtain rfl : topK = none := Option.not_isSome_iff_eq_none.1 unset
        rfl
    | topP =>
        obtain rfl : topP = none := Option.not_isSome_iff_eq_none.1 unset
        rfl

/-- Of the values behind its name the last one decides whether a parameter is set. -/
theorem is_set_iff_last_value (parameter : Parameter) (label : String) :
    parameter.isSet (ofLabel label) =
      ((valuesBehind parameter.key (names label)).getLast?.any parameter.reads) := by
  rw [ofLabel, assign_all_eq, valuesBehind]
  change parameter.isSet ((pairs (names label)).foldl _ {}) = _
  induction pairs (names label) using List.reverseRecOn with
  | nil => cases parameter <;> rfl
  | append_singleton front last ih =>
      rw [List.foldl_append, List.foldl_cons, List.foldl_nil, assign_is_set, ih, List.filter_append,
        List.filter_cons, List.filter_nil]
      cases last.1 == parameter.key with
      | false => simp
      | true => simp

end Assignments

/-- A label whose last segment names no parameter, and behind it the name of a parameter with a
malformed value: whatever stands in the label, the longer one leaves this parameter unset and all
else as it was. So it says the same as the label exactly where the label does not set the parameter,
since the last value behind its name is malformed or there is none. -/
theorem malformed_value_takes_back {label value : String} {parameter : Parameter}
    (closed : ∀ named : Parameter, (names label).getLast? ≠ some named.key)
    (whole : '_' ∉ value.toList)
    (malformed : parameter.reads value = false) :
    ofLabel (label ++ "_" ++ parameter.key ++ "_" ++ value) = (ofLabel label).without parameter ∧
      (ofLabel (label ++ "_" ++ parameter.key ++ "_" ++ value) = ofLabel label ↔
        ∀ earlier ∈ (valuesBehind parameter.key (names label)).getLast?,
        parameter.reads earlier = false) := by
  have longer : ofLabel (label ++ "_" ++ parameter.key ++ "_" ++ value) =
      (ofLabel label).without parameter := by
    obtain ⟨rest, last, split⟩ : ∃ rest last, names label = rest ++ [last] :=
      ⟨_, _, (List.dropLast_concat_getLast (names_ne_nil label)).symm⟩
    have other : ∀ named : Parameter, last ≠ named.key := by
      intro named same
      apply closed named
      rw [split, List.getLast?_concat, same]
    have extended := names_extended label parameter whole
    have again : names (label ++ "_" ++ parameter.key ++ "_" ++ value) =
        rest ++ [last] ++ [parameter.key] ++ [value] := by
      rw [extended, split, List.append_assoc _ [parameter.key]]
      rfl
    change assignAll {} (names _) = without (assignAll {} (names label)) parameter
    rw [again, assign_all_eq, assign_all_eq, pairs_concat (rest ++ [last]), pairs_concat, ← split,
      List.foldl_append, List.foldl_append, List.foldl_cons, List.foldl_cons, List.foldl_nil,
      List.foldl_nil, assign_other other, assign_malformed malformed]
  refine ⟨longer, ?_⟩
  rw [longer, without_eq_iff, is_set_iff_last_value]
  cases (valuesBehind parameter.key (names label)).getLast? with
  | none => simp
  | some earlier => simp

/-- A malformed value takes nothing back from a label that does not set its parameter. -/
theorem malformed_temperature_takes_nothing_back :
    ofLabel ("temp_hot_top_k_40" ++ "_" ++ Parameter.temperature.key ++ "_" ++ "warm") =
      ofLabel "temp_hot_top_k_40" := by
  have closed : ∀ named : Parameter, (names "temp_hot_top_k_40").getLast? ≠ some named.key := by
    intro named
    cases named <;> decide
  exact (malformed_value_takes_back closed (by decide) (by decide)).2.2 (by decide)

/-- A malformed cutoff takes back the one before it. -/
theorem malformed_cutoff_takes_back_cutoff :
    (∀ named : Parameter, (names "temp_1.0_top_k_40").getLast? ≠ some named.key) ∧
    '_' ∉ "x".toList ∧
      (∀ named : Parameter, "x" ≠ named.key) ∧ Parameter.topK.reads "x" = false ∧
      ofLabel ("temp_1.0_top_k_40" ++ "_" ++ Parameter.topK.key ++ "_" ++ "x") ≠
        ofLabel "temp_1.0_top_k_40" := by
  refine ⟨?_, by decide, ?_, by decide, ?_⟩
  · intro named
    cases named <;> decide
  · intro named
    cases named <;> decide
  · intro same
    have cutoff : (ofLabel "temp_1.0_top_k_40").topK = some 40 := by decide
    have none : (ofLabel ("temp_1.0_top_k_40" ++ "_" ++ Parameter.topK.key ++ "_" ++ "x")).topK =
        none := by decide
    rw [same, cutoff] at none
    cases none

end Resemblance.Temperature
