import Mathlib.Tactic.Tauto
import Resemblance.Record.Json
import Resemblance.Proofs.Redrafts

/-!
The parts of a record written anew. Each of them is read from every redraft as it was read before. A
validity is set aside until its status is known, so members can be added to it only if they can be
set aside too.
-/

namespace Resemblance

open Json (Field Members Keeps Shuffled Redrafted)

section Plain

variable {α : Type} {read : Json → Option α}

theorem keeps_plain (object : ∀ members, read (.object members) = none)
    (array : ∀ items, read (.array items) = none) : Keeps Shuffled read := by
  intro json json' x shuffled found
  cases shuffled with
  | members same => exact nomatch (object _).symm.trans found
  | member inside => exact nomatch (object _).symm.trans found
  | item inside => exact nomatch (array _).symm.trans found

theorem keeps_text : Keeps Shuffled Json.toText? :=
  keeps_plain (fun _ => rfl) fun _ => rfl

theorem keeps_nat (bound : Nat) : Keeps Shuffled (Json.toNat? bound) :=
  keeps_plain (fun _ => rfl) fun _ => rfl

theorem keeps_float : Keeps Shuffled Json.toFloat? :=
  keeps_plain (fun _ => rfl) fun _ => rfl

theorem keeps_time : Keeps Shuffled fun time => time.toText?.bind Timestamp.read :=
  keeps_plain (fun _ => rfl) fun _ => rfl

end Plain

namespace DelegateStatus

theorem keeps : Keeps Shuffled ofJson? := by
  intro json json' status shuffled found
  cases shuffled with
  | item inside => cases found
  | @members members members' same =>
      rw [ofJson?.eq_def] at found
      split at found
      · rename_i text
        cases text
      · rename_i name single
        obtain rfl := Json.object.inj single
        obtain rfl := List.singleton_perm.1 same
        exact found
      · cases found
  | @member before after name value value' inside =>
      rw [ofJson?.eq_def] at found
      split at found
      · rename_i text
        cases text
      · rename_i name single
        obtain ⟨rfl, rest⟩ | ⟨_, empty⟩ := List.append_eq_cons_iff.1 (Json.object.inj single)
        · obtain ⟨same, rfl⟩ := List.cons.inj rest
          exact absurd (Prod.mk.inj same).2 inside.filled.1
        · simp at empty
      · cases found

end DelegateStatus

namespace Validity

/-- Values that can be set aside among the members of a validity. -/
def Storable (value : Json) : Prop :=
  storable levelsBelow value = true

section Storing

variable {levels : Nat} {items : List Json} {members : Members} {json json' : Json}

theorem storable_items_iff :
    storableItems levels items = true ↔ ∀ item ∈ items, storable levels item = true := by
  induction items with
  | nil => simp [storableItems]
  | cons item rest ih => simp [storableItems, ih]

theorem storable_members_iff :
    storableMembers levels members = true ↔
      ∀ member ∈ members, member.1.isSome = true ∧ storable levels member.2 = true := by
  induction members with
  | nil => simp [storableMembers]
  | cons member rest ih =>
      obtain ⟨name, value⟩ := member
      simp [storableMembers, ih, and_assoc]

theorem storable_of_shuffled (shuffled : Shuffled json json')
    (storing : storable levels json = true) :
    storable levels json' = true := by
  induction shuffled generalizing levels with
  | members same =>
      simp only [storable, Bool.and_eq_true, storable_members_iff] at storing ⊢
      exact ⟨storing.1, fun member listed => storing.2 member (same.mem_iff.2 listed)⟩
  | member inside ih =>
      simp only [storable, Bool.and_eq_true, storable_members_iff, List.forall_mem_append,
        List.forall_mem_cons] at storing ⊢
      exact ⟨storing.1, storing.2.1, ⟨storing.2.2.1.1, ih storing.2.2.1.2⟩, storing.2.2.2⟩
  | item inside ih =>
      simp only [storable, Bool.and_eq_true, storable_items_iff, List.forall_mem_append,
        List.forall_mem_cons] at storing ⊢
      exact ⟨storing.1, storing.2.1, ih storing.2.2.1, storing.2.2.2⟩

end Storing

def fields : List Field :=
  [.plain (.named "status") false, .plain (.named "reason") false]

variable {json json' : Json} {members members' : Members}

theorem rewritten_of_known {field : Field} (known : field ∈ fields) :
    field.Rewritten = Shuffled := by
  simp only [fields, List.mem_cons, List.not_mem_nil, or_false] at known
  obtain rfl | rfl := known
  · rfl
  · rfl

theorem storable_redrafted
    (redrafted : Redrafted Storable fields (.object members) (.object members'))
    (storing : storableMembers levelsBelow members = true) :
    storableMembers levelsBelow members' = true := by
  rw [storable_members_iff] at storing ⊢
  apply Json.members_redrafted (fun _ fit => fit)
    (fun _ _ => storable_of_shuffled) _ redrafted storing
  intro field known value value' rewritten
  rw [rewritten_of_known known] at rewritten
  exact storable_of_shuffled rewritten

/-- A validity in an array holds texts, in which nothing can change. -/
theorem items_are_texts {items : List Json} {validity : Validity}
    (found : ofJson? (.array items) = some validity) :
    ∀ item ∈ items, ∀ item', ¬ Shuffled item item' := by
  have text {content : Option String} {item' : Json} : ¬ Shuffled (.text content) item' := nofun
  rw [ofJson?.eq_def] at found
  split at found
  · rename_i object
    cases object
  · rename_i single
    obtain rfl := Json.array.inj single
    simpa using fun _ => text
  · rename_i reason double
    obtain rfl := Json.array.inj double
    simpa using ⟨fun _ => text, fun _ => text⟩
  · cases found

theorem text_redrafted {name text : String} {held : Option Json}
    (known : Field.plain (.named name) false ∈ fields)
    (redrafted : Redrafted Storable fields (.object members) (.object members'))
    (taken : Json.slotValue members (.named name) = some held)
    (found : held.bind Json.toText? = some text) :
    ∃ held', Json.slotValue members' (.named name) = some held' ∧
    held'.bind Json.toText? = some text := by
  have separate : Json.Separate (fields.map Field.slot) := by decide
  obtain ⟨held', taken', carries⟩ := Json.slot_value_redrafted separate known redrafted taken
  exact ⟨held', taken', carries.required rfl keeps_text found⟩

theorem of_status_redrafted {status : String} {validity : Validity}
    (redrafted : Redrafted Storable fields (.object members) (.object members'))
    (found : ofStatus? status (Json.slotValue members (.named "reason")) = some validity) :
    ofStatus? status (Json.slotValue members' (.named "reason")) = some validity := by
  rw [ofStatus?] at found ⊢
  split at found
  · rename_i valid
    rw [if_pos valid]
    exact found
  · rename_i other
    rw [if_neg other]
    split at found
    · rename_i invalid
      rw [if_pos invalid]
      obtain ⟨held, taken, found⟩ := Option.bind_eq_some_iff.1 found
      obtain ⟨reason, text, rfl⟩ := Option.map_eq_some_iff.1 found
      obtain ⟨held', taken', text'⟩ := text_redrafted (.tail _ (.head _)) redrafted taken text
      rw [taken', Option.bind_some, text']
      rfl
    · cases found

theorem object_redrafted {validity : Validity}
    (redrafted : Redrafted Storable fields (.object members) (.object members'))
    (found : ofJson? (.object members) = some validity) :
    ofJson? (.object members') = some validity := by
  simp only [ofJson?, Option.bind_eq_bind] at found ⊢
  split at found
  · rename_i storing
    rw [if_pos (storable_redrafted redrafted storing)]
    obtain ⟨held, taken, found⟩ := Option.bind_eq_some_iff.1 found
    obtain ⟨status, text, found⟩ := Option.bind_eq_some_iff.1 found
    obtain ⟨held', taken', text'⟩ := text_redrafted (.head _) redrafted taken text
    rw [taken', Option.bind_some, text', Option.bind_some]
    exact of_status_redrafted redrafted found
  · cases found

theorem keeps : Keeps (Redrafted Storable fields) ofJson? := by
  intro json json' validity redrafted found
  have listed {before after : List Json} {value : Json} : value ∈ before ++
      value :: after := by simp
  cases redrafted with
  | shuffled shuffled =>
      cases shuffled with
      | members same => exact object_redrafted (.shuffled (.members same)) found
      | member inside => exact object_redrafted (.shuffled (.member inside)) found
      | item inside => exact absurd inside (items_are_texts found _ listed _)
  | added unknown fit => exact object_redrafted (.added unknown fit) found
  | removed unknown => exact object_redrafted (.removed unknown) found
  | dropped known named optional => exact object_redrafted (.dropped known named optional) found
  | renamed known named named' => exact object_redrafted (.renamed known named named') found
  | member known named inside => exact object_redrafted (.member known named inside) found
  | item known inside =>
      rw [rewritten_of_known (List.mem_of_getElem? known)] at inside
      exact absurd inside (items_are_texts found _ listed _)

/-- The ways to write a validity anew. A valid one has no reason, so there a reason is as good as
unknown. -/
inductive Anew (Fit : Json → Prop) : Json → Json → Prop
  | redrafted {json json' : Json} (redrafted : Redrafted Fit fields json json') :
    Anew Fit json json'
  | added {before after : Members} {value : Json}
      (valid : (some "status", .ofText "valid") ∈ before ++ after) (fit : Fit value) :
      Anew Fit (.object (before ++ after)) (.object (before ++ (some "reason", value) :: after))
  | removed {before after : Members} {value : Json}
      (valid : (some "status", .ofText "valid") ∈ before ++ after) :
      Anew Fit (.object (before ++ (some "reason", value) :: after)) (.object (before ++ after))

theorem Anew.filled {Fit : Json → Prop} (anew : Anew Fit json json') :
    json ≠ .null ∧ json' ≠ .null := by
  cases anew with
  | redrafted redrafted => exact redrafted.filled
  | added valid fit => exact ⟨nofun, nofun⟩
  | removed valid => exact ⟨nofun, nofun⟩

def field (name : String) (Fit : Json → Prop) : Field where
  slot := .named name
  optional := false
  Rewritten := Anew Fit
  shuffled := fun shuffled => .redrafted (.shuffled shuffled)
  filled := Anew.filled

theorem of_json_valid_iff {validity : Validity}
    (valid : (some "status", .ofText "valid") ∈ members) :
    ofJson? (.object members) = some validity ↔ storableMembers levelsBelow members = true ∧
      Json.slotValue members (.named "status") = some (some (.ofText "valid")) ∧
      validity = .valid := by
  have there : Json.ofText "valid" ∈ Json.valuesNamed ["status"] members :=
    List.mem_map_of_mem (List.mem_filter.2 ⟨valid, rfl⟩)
  simp only [ofJson?, Option.bind_eq_bind]
  cases storableMembers levelsBelow members with
  | false => simp
  | true =>
      rw [if_pos rfl]
      cases taken : Json.slotValue members (.named "status") with
      | none => simp
      | some held =>
          have values : Json.valuesNamed ["status"] members = held.toList :=
            Json.slot_value_iff.1 taken
          rw [values] at there
          obtain rfl := Option.mem_toList.1 there
          rw [Option.bind_some]
          exact ⟨fun found => ⟨rfl, rfl, (Option.some.inj found).symm⟩,
            fun ⟨_, _, same⟩ => same ▸ rfl⟩

theorem status_without_reason {before after : Members} {value : Json} {held : Option Json} :
    Json.slotValue (before ++ (some "reason", value) :: after) (.named "status") = some held ↔
      Json.slotValue (before ++ after) (.named "status") = some held := by
  rw [Json.slot_value_iff, Json.slot_value_iff, Json.values_named_between, Json.values_named_append,
    Json.Slot.taken_unknown (by decide)]
  rfl

theorem keeps_anew : Keeps (Anew Storable) ofJson? := by
  intro json json' validity anew found
  cases anew with
  | redrafted redrafted => exact keeps redrafted found
  | @added before after value valid fit =>
      have valid' : (some "status", .ofText "valid") ∈ before ++
          (some "reason", value) :: after := by
        simp only [List.mem_append, List.mem_cons] at valid ⊢
        tauto
      obtain ⟨storing, taken, rfl⟩ := (of_json_valid_iff valid).1 found
      apply (of_json_valid_iff valid').2 ⟨_, status_without_reason.2 taken, rfl⟩
      simp only [storable_members_iff, List.forall_mem_append, List.forall_mem_cons] at storing ⊢
      exact ⟨storing.1, ⟨rfl, fit⟩, storing.2⟩
  | @removed before after value valid =>
      have valid' : (some "status", .ofText "valid") ∈ before ++
          (some "reason", value) :: after := by
        simp only [List.mem_append, List.mem_cons] at valid ⊢
        tauto
      obtain ⟨storing, taken, rfl⟩ := (of_json_valid_iff valid').1 found
      apply (of_json_valid_iff valid).2 ⟨_, status_without_reason.1 taken, rfl⟩
      simp only [storable_members_iff, List.forall_mem_append, List.forall_mem_cons] at storing ⊢
      exact ⟨storing.1, storing.2.2⟩

end Validity

/-- No condition, since objects other than validities skip what they do not know whatever it is. -/
def anything (_ : Json) : Prop :=
  True

namespace PairValidity

def fields (Fit : Json → Prop) : List Field :=
  [Validity.field "reference" Fit, Validity.field "candidate" Fit]

theorem keeps : Keeps (Redrafted anything (fields Validity.Storable)) ofJson? := by
  apply Json.keeps_of_slots (by decide)
  intro values values' pair carried found
  obtain _ | ⟨reference, _ | ⟨candidate, _ | _⟩⟩ := carried
  simp only [Option.bind_eq_bind, Option.bind_eq_some_iff, Option.some.injEq] at found
  obtain ⟨_, first, _, second, rfl⟩ := found
  have first' := reference.required rfl Validity.keeps_anew first
  have second' := candidate.required rfl Validity.keeps_anew second
  simp [first', second']

end PairValidity

namespace RecordError

def fields : List Field :=
  [.plain (.named "kind") false, .plain (.named "message") false]

theorem keeps : Keeps (Redrafted anything fields) ofJson? := by
  apply Json.keeps_of_slots (by decide)
  intro values values' error carried found
  obtain _ | ⟨kind, _ | ⟨message, _ | _⟩⟩ := carried
  simp only [Option.bind_eq_bind, Option.bind_eq_some_iff, Option.some.injEq] at found
  obtain ⟨_, first, _, second, rfl⟩ := found
  have first' := kind.required rfl keeps_text first
  have second' := message.required rfl keeps_text second
  simp [first', second']

end RecordError

namespace DelegateScores

def fields : List Field :=
  [.plain { names := ["weighted_ngram", "weighted_ngram_match_score"] } false,
   .plain { names := ["syntax_match", "syntax_match_score"] } false,
   .plain { names := ["dataflow_match", "dataflow_match_score"] } false]

theorem keeps : Keeps (Redrafted anything fields) ofJson? := by
  apply Json.keeps_of_slots (by decide)
  intro values values' scores carried found
  obtain _ | ⟨ngram, _ | ⟨shape, _ | ⟨dataflow, _ | _⟩⟩⟩ := carried
  simp only [Option.bind_eq_bind, Option.bind_eq_some_iff, Option.some.injEq] at found
  obtain ⟨_, first, _, second, _, third, rfl⟩ := found
  have first' := ngram.required rfl keeps_float first
  have second' := shape.required rfl keeps_float second
  have third' := dataflow.required rfl keeps_float third
  simp [first', second', third']

end DelegateScores

namespace VocabularyScores

def fields : List Field :=
  [.plain (.named "tokens") false, .plain (.named "words") false,
   .plain (.named "identifiers") false, .plain (.named "keywords") false,
   .plain (.named "ast_names") false]

theorem keeps : Keeps (Redrafted anything fields) ofJson? := by
  apply Json.keeps_of_slots (by decide)
  intro values values' scores carried found
  obtain _ | ⟨tokens, _ | ⟨words, _ | ⟨identifiers, _ | ⟨keywords, _ | ⟨names, _ | _⟩⟩⟩⟩⟩ := carried
  simp only [Option.bind_eq_bind, Option.bind_eq_some_iff, Option.some.injEq] at found
  obtain ⟨_, first, _, second, _, third, _, fourth, _, fifth, rfl⟩ := found
  have first' := tokens.required rfl keeps_float first
  have second' := words.required rfl keeps_float second
  have third' := identifiers.required rfl keeps_float third
  have fourth' := keywords.required rfl keeps_float fourth
  have fifth' := names.required rfl keeps_float fifth
  simp [first', second', third', fourth', fifth']

end VocabularyScores

namespace ShapeScores

def fields : List Field :=
  [.plain (.named "node_count_delta") false, .plain (.named "depth_delta") false,
   .plain (.named "histogram_similarity") false, .plain (.named "histogram_distance") false,
   .plain (.named "subtree_overlap") false, .plain (.named "edit_distance") true,
   .plain (.named "edit_similarity") true,
   .plain { names := ["weighted_edit_distance"], defaulted := true } true,
   .plain { names := ["weighted_edit_similarity"], defaulted := true } true]

theorem keeps : Keeps (Redrafted anything fields) ofJson? := by
  apply Json.keeps_of_slots (by decide)
  intro values values' scores carried found
  obtain _ | ⟨nodes, _ | ⟨depth, _ | ⟨similarity, _ | ⟨difference, _ | ⟨overlap, carried⟩⟩⟩⟩⟩ :=
    carried
  obtain _ | ⟨edit, _ | ⟨editSimilarity, _ | ⟨weighted, _ | ⟨weightedSimilarity, _ | _⟩⟩⟩⟩ :=
    carried
  simp only [Option.bind_eq_bind, Option.bind_eq_some_iff, Option.some.injEq] at found
  obtain ⟨_, read₁, _, read₂, _, read₃, _, read₄, _, read₅, _, read₆, _, read₇, _, read₈, _, read₉,
    rfl⟩ := found
  have nodes' := nodes.required rfl keeps_float read₁
  have depth' := depth.required rfl keeps_float read₂
  have similarity' := similarity.required rfl keeps_float read₃
  have difference' := difference.required rfl keeps_float read₄
  have overlap' := overlap.required rfl keeps_float read₅
  have edit' := edit.optional (keeps_nat countBound) read₆
  have editSimilarity' := editSimilarity.optional keeps_float read₇
  have weighted' := weighted.optional (keeps_nat countBound) read₈
  have weightedSimilarity' := weightedSimilarity.optional keeps_float read₉
  simp [nodes', depth', similarity', difference', overlap', edit', editSimilarity', weighted',
      weightedSimilarity']

end ShapeScores

namespace Record

def fields (Fit : Json → Prop) : List Field :=
  [.plain (.named "bleu") false,
   .part (.named "structural") true anything ShapeScores.fields,
   .part (.named "delegate_scores") true anything DelegateScores.fields,
   .plain (.named "delegate_status") false,
   .part (.named "jaccard") false anything VocabularyScores.fields,
   .part (.named "validity") true anything (PairValidity.fields Fit),
   .plain (.named "composite") false,
   .part (.named "error") true anything RecordError.fields,
   .plain (.named "computed_at") false]

theorem keeps : Keeps (Redrafted anything (fields Validity.Storable)) ofJson? := by
  apply Json.keeps_of_slots (by decide)
  intro values values' record carried found
  obtain _ | ⟨bleu, _ | ⟨structural, _ | ⟨scores, _ | ⟨status, _ | ⟨vocabulary, carried⟩⟩⟩⟩⟩ :=
    carried
  obtain _ | ⟨validity, _ | ⟨composite, _ | ⟨error, _ | ⟨time, _ | _⟩⟩⟩⟩ := carried
  simp only [Option.bind_eq_bind, Option.bind_eq_some_iff, Option.some.injEq] at found
  obtain ⟨_, read₁, _, read₂, _, read₃, _, read₄, _, read₅, _, read₆, _, read₇, _, read₈, _, read₉,
    rfl⟩ := found
  have bleu' := bleu.required rfl keeps_float read₁
  have structural' := structural.optional ShapeScores.keeps read₂
  have scores' := scores.optional DelegateScores.keeps read₃
  have status' := status.required rfl DelegateStatus.keeps read₄
  have vocabulary' := vocabulary.required rfl VocabularyScores.keeps read₅
  have validity' := validity.optional PairValidity.keeps read₆
  have composite' := composite.required rfl keeps_float read₇
  have error' := error.optional RecordError.keeps read₈
  have time' := time.required rfl keeps_time read₉
  simp [bleu', structural', scores', status', vocabulary', validity', composite', error', time']

end Record

namespace ArtifactId

def fields : List Field :=
  [.plain (.named "challenge") false, .plain (.named "prompt") false,
   .plain (.named "temperature") false, .plain (.named "iteration") false,
   .plain (.named "model") false]

theorem keeps : Keeps (Redrafted anything fields) ofJson? := by
  apply Json.keeps_of_slots (by decide)
  intro values values' id carried found
  obtain _ | ⟨challenge, _ | ⟨prompt, _ | ⟨temperature, _ | ⟨iteration, _ | ⟨model, _ | _⟩⟩⟩⟩⟩ :=
    carried
  simp only [Option.bind_eq_bind, Option.bind_eq_some_iff, Option.some.injEq] at found
  obtain ⟨_, first, _, second, _, third, _, fourth, _, fifth, rfl⟩ := found
  have first' := challenge.required rfl keeps_text first
  have second' := prompt.required rfl keeps_text second
  have third' := temperature.required rfl keeps_text third
  have fourth' := iteration.required rfl (keeps_nat iterationBound) fourth
  have fifth' := model.required rfl keeps_text fifth
  simp [first', second', third', fourth', fifth']

end ArtifactId

end Resemblance
