import Resemblance.Proofs.CallHistory

/-!
What the parts of a record say of one another. Structure goes with the validity of both sides; the
status tells what became of the delegate, and with it whether there are scores of its own and an
error. A delegate that is not asked, and one that fails, leave no trace in anything else.
-/

namespace Resemblance

namespace Record

def ofValidSides (record : Record) : Bool :=
  record.validity.any PairValidity.bothValid

/-- The parts of a record follow from the validity of its sides and from what the delegate
replied. -/
structure Accounts (weights : Weights Float) (reply : Option (String × DelegateReply))
    (record : Record) : Prop where
  compared : record.wasCompared = true
  structure_present : record.structural.isSome = record.ofValidSides
  skipped : record.delegateStatus = .skippedInvalidInput ↔ record.ofValidSides = false
  not_available : record.delegateStatus = .notAvailable ↔ record.ofValidSides = true ∧ reply = none
  computed : record.delegateStatus = .computed ↔
    record.ofValidSides = true ∧ ∃ name scores, reply = some (name, .answered (.ok scores))
  failed : record.delegateStatus = .failed ↔
    record.ofValidSides = true ∧ ∃ name failure, reply = some (name, .answered (.error failure))
  scores_present : record.delegateScores.isSome = true ↔
    record.delegateStatus = .computed ∨ record.delegateStatus = .failed
  scores_given : ∀ name scores, record.delegateStatus = .computed →
    reply = some (name, .answered (.ok scores)) → record.delegateScores = some scores
  scores_zero : record.delegateStatus = .failed → record.delegateScores = some .zero
  error_present : record.hasError = true ↔
    record.delegateStatus = .skippedInvalidInput ∨ record.delegateStatus = .failed
  error_parse : record.delegateStatus = .skippedInvalidInput →
    ∃ pair, record.validity = some pair ∧ record.error = some ⟨"ParseError", pair.toFailure.message⟩
  error_delegate : ∀ name failure, record.delegateStatus = .failed →
    reply = some (name, .answered (.error failure)) →
      record.error = some ⟨"DelegateError", (failure.toFailure name).message⟩
  composite : record.composite = compositeScore weights record.bleu record.structuralSimilarity
    (record.computedScores.map DelegateScores.mean)

/-- Records that agree in all that a delegate has no part in. -/
structure SameWithoutDelegate (record other : Record) : Prop where
  bleu : record.bleu = other.bleu
  structural : record.structural = other.structural
  vocabulary : record.vocabulary = other.vocabulary
  validity : record.validity = other.validity
  composite : record.composite = other.composite
  metrics : record.metrics = other.metrics

theorem SameWithoutDelegate.refl (record : Record) : record.SameWithoutDelegate record :=
  ⟨rfl, rfl, rfl, rfl, rfl, rfl⟩

end Record

theorem Analysis.profile_isSome (grammar : Grammar) (limit : Nat) (source : String) :
    (ofSource grammar limit source).profile.isSome =
      (ofSource grammar limit source).validity.isValid := by
  unfold ofSource Grammar.checkParsed
  cases valid : (Validity.ofTree source (grammar source)).isValid <;> simp [valid]

theorem Analysis.validity_of_source (grammar : Grammar) (limit : Nat) (source : String) :
    (ofSource grammar limit source).validity = grammar.check source := rfl

namespace Calculator

/-- A calculator with another delegate, which was asked another number of times. -/
def asking (calculator : Calculator) (delegate : Option Delegate) (calls : Nat) : Calculator :=
  { calculator with delegate, calls }

theorem asking_analysis (calculator : Calculator) (delegate : Option Delegate) (calls : Nat)
    (fingerprint source : String) :
    (calculator.asking delegate calls).analysis fingerprint source =
      (calculator.analysis fingerprint source).map id fun after => after.asking delegate calls := by
  rw [Calculator.analysis, Calculator.analysis, asking]
  cases calculator.analyses.lookup fingerprint <;> rfl

theorem asking_compare (calculator : Calculator) (delegate : Option Delegate) (calls : Nat)
    (reference candidate : String) :
    ∃ later, ((calculator.asking delegate calls).compare reference candidate).2 =
      (calculator.compare reference candidate).2.asking delegate later := by
  have plain := compare_result calculator reference candidate
  have asked := compare_result (calculator.asking delegate calls) reference candidate
  rw [asking_analysis] at asked
  generalize calculator.analysis (Digest.ofText reference) reference = first at plain asked
  obtain ⟨a, between⟩ := first
  dsimp only [Prod.map, id] at plain asked
  rw [asking_analysis] at asked
  generalize between.analysis (Digest.ofText candidate) candidate = second at plain asked
  obtain ⟨b, after⟩ := second
  obtain ⟨-, later, plain⟩ := plain
  obtain ⟨-, later', asked⟩ := asked
  exact ⟨later', by rw [asked, plain]; rfl⟩

theorem asking_perform (calculator : Calculator) (delegate : Option Delegate)
    (calls : Nat) (use : Use) :
    ∃ later, ((calculator.asking delegate calls).perform use).2 =
      (calculator.perform use).2.asking delegate later := by
  cases use with
  | sources reference candidate =>
      exact asking_compare calculator delegate calls reference candidate
  | artifacts reference candidate =>
      exact asking_compare calculator delegate calls reference.2 candidate.2
  | clear => exact ⟨calls, rfl⟩

theorem asking_after (calculator : Calculator) (delegate : Option Delegate) (calls : Nat)
    (history : List (Timestamp × Use)) :
    ∃ later, (calculator.asking delegate calls).after history =
      (calculator.after history).asking delegate later := by
  induction history generalizing calculator calls with
  | nil => exact ⟨calls, rfl⟩
  | cons call rest ih =>
      obtain ⟨between, step⟩ := asking_perform (calculator.atTime call.1) delegate calls call.2
      obtain ⟨later, run⟩ := ih ((calculator.atTime call.1).perform call.2).2 between
      refine ⟨later, ?_⟩
      rw [after, after, List.foldl_cons, List.foldl_cons, ← after, ← after, ← run, ← step]
      rfl

/-- What can become of the delegate's part. -/
inductive PartOf (pair : PairValidity) : Option (String × DelegateReply) → DelegatePart → Prop where
  | skipped (reply : Option (String × DelegateReply)) (invalid : pair.bothValid = false) :
      PartOf pair reply (.skipped pair)
  | notAvailable (valid : pair.bothValid = true) : PartOf pair none ⟨none, .notAvailable, none⟩
  | computed (name : String) (scores : DelegateScores) (valid : pair.bothValid = true) :
      PartOf pair (some (name, .answered (.ok scores))) (.ofAnswer name (.ok scores))
  | failed (name : String) (failure : DelegateFailure) (valid : pair.bothValid = true) :
      PartOf pair (some (name, .answered (.error failure))) (.ofAnswer name (.error failure))

variable {pair : PairValidity} {reply : Option (String × DelegateReply)} {part : DelegatePart}

theorem part_of_cases (given : partOf pair reply = .ok part) : PartOf pair reply part := by
  unfold partOf at given
  split at given
  next valid =>
    cases reply with
    | none =>
        obtain rfl := Except.ok.inj given
        exact .notAvailable valid
    | some named =>
        obtain ⟨name, result⟩ := named
        cases result with
        | crashed detail => exact absurd given nofun
        | answered answer =>
            obtain rfl := Except.ok.inj given
            cases answer with
            | ok scores => exact .computed name scores valid
            | error failure => exact .failed name failure valid
  next invalid =>
    obtain rfl := Except.ok.inj given
    exact .skipped reply (Bool.not_eq_true _ ▸ invalid)

/-- A record is made of some part that the delegate can have. -/
theorem part_of_recorded {made : DelegatePart → Record} {record : Record}
    (recorded : (partOf pair reply).map made = .ok record) :
    ∃ part, PartOf pair reply part ∧ made part = record := by
  cases given : partOf pair reply with
  | error detail =>
      rw [given] at recorded
      cases recorded
  | ok part =>
      rw [given] at recorded
      exact ⟨part, part_of_cases given, Except.ok.inj recorded⟩

theorem part_of_invalid (invalid : pair.bothValid = false) :
    partOf pair reply = .ok (.skipped pair) := by
  unfold partOf
  simp [invalid]

/-- There is no part only when a delegate that is asked crashes. -/
theorem part_of_eq_error_iff (detail : String) :
    partOf pair reply = .error detail ↔
      pair.bothValid = true ∧ ∃ name, reply = some (name, .crashed detail) := by
  unfold partOf
  cases valid : pair.bothValid with
  | false => simp
  | true =>
      cases reply with
      | none => simp
      | some named =>
          obtain ⟨name, result⟩ := named
          cases result <;> simp

section

variable (calculator : Calculator) (reference candidate : String) (a b : Analysis)
variable (part : DelegatePart)

@[simp] theorem record_of_valid_sides :
    (calculator.record reference candidate a b part).ofValidSides =
      (PairValidity.mk a.validity b.validity).bothValid := rfl

@[simp] theorem record_delegate_status :
    (calculator.record reference candidate a b part).delegateStatus = part.status := rfl

@[simp] theorem record_delegate_scores :
    (calculator.record reference candidate a b part).delegateScores = part.scores := rfl

@[simp] theorem record_error :
    (calculator.record reference candidate a b part).error = part.error := rfl

theorem record_structural_isSome (profiled : a.profile.isSome = a.validity.isValid)
    (profiled' : b.profile.isSome = b.validity.isValid) :
    (calculator.record reference candidate a b part).structural.isSome =
      (PairValidity.mk a.validity b.validity).bothValid := by
  cases valid : (PairValidity.mk a.validity b.validity).bothValid with
  | false => simp [record, valid]
  | true =>
      obtain ⟨isValid, isValid'⟩ := (Bool.and_eq_true _ _).mp valid
      obtain ⟨_, profile⟩ := Option.isSome_iff_exists.1 (profiled.trans isValid)
      obtain ⟨_, profile'⟩ := Option.isSome_iff_exists.1 (profiled'.trans isValid')
      simp [record, valid, profile, profile']

end

theorem record_accounts (calculator : Calculator) (reference candidate : String) {a b : Analysis}
    (profiled : a.profile.isSome = a.validity.isValid)
    (profiled' : b.profile.isSome = b.validity.isValid)
    (given : PartOf ⟨a.validity, b.validity⟩ reply part) :
    (calculator.record reference candidate a b part).Accounts calculator.weights reply where
  compared := rfl
  structure_present :=
    record_structural_isSome calculator reference candidate a b part profiled profiled'
  skipped := by cases given <;> simp [*, DelegatePart.skipped, DelegatePart.ofAnswer]
  not_available := by cases given <;> simp [*, DelegatePart.skipped, DelegatePart.ofAnswer]
  computed := by cases given <;> simp [*, DelegatePart.skipped, DelegatePart.ofAnswer]
  failed := by cases given <;> simp [*, DelegatePart.skipped, DelegatePart.ofAnswer]
  scores_present := by cases given <;> simp [DelegatePart.skipped, DelegatePart.ofAnswer]
  scores_given := by cases given <;> simp [DelegatePart.skipped, DelegatePart.ofAnswer]
  scores_zero := by cases given <;> simp [DelegatePart.skipped, DelegatePart.ofAnswer]
  error_present := by
    cases given <;> simp [Record.hasError, DelegatePart.skipped, DelegatePart.ofAnswer]
  error_parse skipped := by
    cases given with
    | skipped reply invalid => exact ⟨_, rfl, rfl⟩
    | notAvailable valid => exact absurd skipped nofun
    | computed name scores valid => exact absurd skipped nofun
    | failed name failure valid => exact absurd skipped nofun
  error_delegate name failure failed replied := by
    cases given with
    | skipped reply invalid => exact absurd failed nofun
    | notAvailable valid => exact absurd failed nofun
    | computed name scores valid => exact absurd failed nofun
    | failed name failure valid =>
        obtain ⟨rfl, rfl⟩ : name = _ ∧ failure = _ := by simpa using replied
        rfl
  composite := by
    unfold Record.computedScores
    rw [record_delegate_status, record_delegate_scores]
    split
    next computed => simp only [record, computed, if_true]; rfl
    next other => simp only [record, other, if_false]; rfl

theorem record_of_failed (calculator : Calculator) (reference candidate : String) (a b : Analysis)
    (name : String) (failure : DelegateFailure) :
    (calculator.record reference candidate a b
        (.ofAnswer name (.error failure))).SameWithoutDelegate
      (calculator.record reference candidate a b ⟨none, .notAvailable, none⟩) where
  bleu := rfl
  structural := rfl
  vocabulary := rfl
  validity := rfl
  composite := rfl
  metrics := rfl

theorem part_of_failed (calculator : Calculator) (reference candidate : String) (a b : Analysis)
    (name : String) (failure : DelegateFailure) : ∃ part plain,
      partOf ⟨a.validity, b.validity⟩ (some (name, .answered (.error failure))) = .ok part ∧
        partOf ⟨a.validity, b.validity⟩ none = .ok plain ∧
        (calculator.record reference candidate a b part).SameWithoutDelegate
          (calculator.record reference candidate a b plain) := by
  cases valid : (PairValidity.mk a.validity b.validity).bothValid with
  | false => exact ⟨_, _, part_of_invalid valid, part_of_invalid valid, .refl _⟩
  | true =>
      unfold partOf
      rw [valid]
      exact ⟨_, _, rfl, rfl, record_of_failed calculator reference candidate a b name failure⟩

theorem compare_asking (calculator : Calculator) (reference candidate : String) :
    let (a, between) := calculator.analysis (Digest.ofText reference) reference
    let (b, _) := between.analysis (Digest.ofText candidate) candidate
    ∀ delegate calls,
      ((calculator.asking delegate calls).compare reference candidate).1.result =
        (partOf ⟨a.validity, b.validity⟩
          ((calculator.asking delegate calls).replyTo reference candidate)).map
            (calculator.record reference candidate a b) := by
  generalize first : calculator.analysis (Digest.ofText reference) reference = analysed
  obtain ⟨a, between⟩ := analysed
  dsimp only
  generalize second : between.analysis (Digest.ofText candidate) candidate = analysed
  obtain ⟨b, after⟩ := analysed
  intro delegate calls
  have asked := compare_result (calculator.asking delegate calls) reference candidate
  rw [asking_analysis, first] at asked
  dsimp only [Prod.map, id] at asked
  rw [asking_analysis, second] at asked
  exact asked.1

end Calculator

open Calculator

/-- After whatever history, a comparison rests on the same two analyses with whatever delegate. -/
theorem after_history_verdict (grammar : Grammar) (now : Timestamp) (config : Config)
    (library : Elementary) (history : List (Timestamp × Use)) (time : Timestamp)
    (reference candidate : String) :
    let texts := reference :: candidate :: textsOf history
    ∃ source ∈ texts, Digest.ofText source = Digest.ofText reference ∧
      ∃ source' ∈ texts, Digest.ofText source' = Digest.ofText candidate ∧
        let a := Analysis.ofSource grammar config.editLimit source
        let b := Analysis.ofSource grammar config.editLimit source'
        ∀ delegate : Option Delegate,
          ((((ofConfig grammar now config delegate library).after history).atTime time).compare
              reference candidate).1.result =
            (partOf ⟨a.validity, b.validity⟩
              (delegate.map fun delegate =>
                (delegate.name, delegate.ask reference candidate config.language))).map
              ((ofConfig grammar time config none library).record reference candidate a b) := by
  intro texts
  have keeps : Keeps (ofConfig grammar now config none library) texts
      (((ofConfig grammar now config none library).after history).atTime time) := by
    apply Keeps.at_time
    apply Keeps.after
      ((keeps_of_config grammar now config none library).weaken (List.nil_subset texts))
    exact fun text member => List.mem_cons_of_mem reference (List.mem_cons_of_mem candidate member)
  have used : reference ∈ texts := List.mem_cons_self
  have used' : candidate ∈ texts := List.mem_cons_of_mem reference List.mem_cons_self
  obtain ⟨source, isUsed, same, between, first, keepsBetween⟩ := keeps.analysis used
  obtain ⟨source', isUsed', same', after, second, -⟩ := keepsBetween.analysis used'
  refine ⟨source, isUsed, same, source', isUsed', same', ?_⟩
  intro a b delegate
  obtain ⟨calls, asking⟩ :=
    asking_after (ofConfig grammar now config none library) delegate 0 history
  have parts :=
    compare_asking (((ofConfig grammar now config none library).after history).atTime time)
      reference candidate
  rw [first] at parts
  dsimp only at parts
  rw [second] at parts
  have result := parts delegate calls
  have own : ((ofConfig grammar now config delegate library).after history).atTime time =
      (((ofConfig grammar now config none library).after history).atTime time).asking
        delegate calls :=
    congrArg (·.atTime time) asking
  obtain ⟨_, analyses, _, rules⟩ := keeps.rules
  obtain rfl := congrArg Calculator.now rules
  rw [rules] at result
  rw [own, rules]
  exact result

/-- After whatever history, the record of two texts follows from the validity of both and from the
reply of the delegate, which for an invalid side is not asked: then the record is the same with
every delegate. A delegate that fails changes nothing that it has no part in. Only a delegate that
crashes leaves no record. -/
theorem records_account_for_delegates (grammar : Grammar) (now : Timestamp) (config : Config)
    (library : Elementary) (history : List (Timestamp × Use)) (time : Timestamp)
    (reference candidate : String) :
    let verdict := fun delegate =>
      ((((ofConfig grammar now config delegate library).after history).atTime
      time).compare reference candidate).1.result
    let reply := fun delegate : Option Delegate => delegate.map fun delegate =>
      (delegate.name, delegate.ask reference candidate config.language)
    ∃ pair : PairValidity,
      (ToldApart (· ∈ reference :: candidate :: textsOf history) →
        pair = ⟨grammar.check reference, grammar.check candidate⟩) ∧
      (∀ delegate detail, verdict delegate = .error detail ↔
        pair.bothValid = true ∧ ∃ name, reply delegate = some (name, .crashed detail)) ∧
      (∀ delegate record, verdict delegate = .ok record →
        record.validity = some pair ∧ record.Accounts config.weights (reply delegate)) ∧
      (pair.bothValid = false → ∀ delegate other, verdict delegate = verdict other) ∧
      (∀ delegate name failure, reply delegate = some (name, .answered (.error failure)) →
        ∃ record plain, verdict delegate = .ok record ∧ verdict none = .ok plain ∧
          record.SameWithoutDelegate plain) := by
  intro verdict reply
  obtain ⟨source, used, same, source', used', same', parts⟩ :=
    after_history_verdict grammar now config library history time reference candidate
  have profiled := Analysis.profile_isSome grammar config.editLimit source
  have profiled' := Analysis.profile_isSome grammar config.editLimit source'
  have checked := Analysis.validity_of_source grammar config.editLimit source
  have checked' := Analysis.validity_of_source grammar config.editLimit source'
  generalize Analysis.ofSource grammar config.editLimit source = a at parts profiled checked
  generalize Analysis.ofSource grammar config.editLimit source' = b at parts profiled' checked'
  change ∀ delegate, verdict delegate =
    (partOf ⟨a.validity, b.validity⟩ (reply delegate)).map _ at parts
  refine ⟨⟨a.validity, b.validity⟩, ?_, ?_, ?_, ?_, ?_⟩
  · intro apart
    rw [checked, checked', apart source reference used List.mem_cons_self same,
      apart source' candidate used' (List.mem_cons_of_mem reference List.mem_cons_self) same']
  · intro delegate detail
    rw [parts, ← part_of_eq_error_iff]
    cases partOf ⟨a.validity, b.validity⟩ (reply delegate) <;> simp [Except.map]
  · intro delegate record recorded
    rw [parts] at recorded
    obtain ⟨part, given, rfl⟩ := part_of_recorded recorded
    exact ⟨rfl, record_accounts (ofConfig grammar time config none library) reference candidate
      profiled profiled' given⟩
  · intro invalid delegate other
    rw [parts, parts, part_of_invalid invalid, part_of_invalid invalid]
  · intro delegate name failure replied
    obtain ⟨part, plain, failed, absent, same⟩ :=
      part_of_failed (ofConfig grammar time config none library) reference candidate a b name
        failure
    refine ⟨_, _, ?_, ?_, same⟩
    · rw [parts, replied, failed]
      rfl
    · rw [parts]
      exact congrArg (Except.map _) absent

end Resemblance
