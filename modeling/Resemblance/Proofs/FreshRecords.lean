import Mathlib
import Resemblance.Proofs.RecordRange

/-!
Records of calculators in use. What is kept from earlier calls shows in no record, as long as
fingerprints tell the texts apart: a fresh calculator comes to the same one at another time. The
comparison of scores finds the two identical unless the delegate answered something that is no
number, which is identical to nothing.
-/

namespace Resemblance

theorem Within.beq_self {x : Float} {bound : ℝ} (within : Within bound x) : (x == x) = true := by
  obtain ⟨number, -, worth⟩ := within
  exact (worth.valued.beq_iff worth.valued).2 rfl

namespace Record

variable {record : Record}

theorem same_option_self {α : Type} {same : α → α → Bool} {value : Option α}
    (own : ∀ a, value = some a → same a a = true) : sameOption same value value = true := by
  cases value with
  | none => rfl
  | some a => exact own a rfl

theorem same_shape_scores_self {scores : ShapeScores}
    (within : ∀ score ∈ scores.values, Within 1 score) :
    sameShapeScores scores scores = true := by
  simp only [ShapeScores.values, List.forall_mem_append, List.forall_mem_cons, Option.mem_toList]
    at within
  obtain ⟨⟨⟨nodes, depth, histogram, distance, overlap, -⟩, edit⟩, weighted⟩ := within
  have same : sameOption (· == ·) scores.editSimilarity scores.editSimilarity = true :=
    same_option_self fun score found => (edit score found).beq_self
  have same' : sameOption (· == ·) scores.weightedEditSimilarity scores.weightedEditSimilarity =
      true :=
    same_option_self fun score found => (weighted score found).beq_self
  simp [sameShapeScores, nodes.beq_self, depth.beq_self, histogram.beq_self, distance.beq_self,
    overlap.beq_self, same, same']

theorem same_vocabulary_scores_self {scores : VocabularyScores}
    (within : ∀ score ∈ scores.values, Within 1 score) :
    sameVocabularyScores scores scores = true := by
  simp only [VocabularyScores.values, List.forall_mem_cons] at within
  obtain ⟨tokens, words, identifiers, keywords, names, -⟩ := within
  simp [sameVocabularyScores, tokens.beq_self, words.beq_self, identifiers.beq_self,
    keywords.beq_self, names.beq_self]

theorem same_delegate_scores_self_iff (scores : DelegateScores) :
    sameDelegateScores scores scores = true ↔ ∀ entry ∈ scores.named, entry.2.isNaN = false := by
  simp [sameDelegateScores, DelegateScores.named, and_assoc]

/-- A record has the scores of itself at another time, unless one that a delegate gave is no
number. -/
theorem same_scores_self_iff (own : ∀ score ∈ record.countScores, Within 1 score)
    (time : Timestamp) :
    ({ record with computedAt := time } : Record).sameScores record = true ↔
      ∀ scores, record.delegateScores = some scores →
      ∀ entry ∈ scores.named, entry.2.isNaN = false := by
  rw [countScores, List.forall_mem_append] at own
  have structural : sameOption sameShapeScores record.structural record.structural = true := by
    apply same_option_self
    intro scores found
    rw [found] at own
    exact same_shape_scores_self own.2
  have delegate : sameOption sameDelegateScores record.delegateScores record.delegateScores = true ↔
      ∀ scores, record.delegateScores = some scores →
          ∀ entry ∈ scores.named, entry.2.isNaN = false := by
    cases record.delegateScores with
    | none => simp [sameOption]
    | some scores => simpa [sameOption] using same_delegate_scores_self_iff scores
  simp only [sameScores, beq_self_eq_true, structural, same_vocabulary_scores_self own.1,
    Bool.true_and, Bool.and_true]
  exact delegate

end Record

namespace Calculator

variable {start calculator : Calculator} {texts : List String} {text : String}

def verdict (calculator : Calculator) (use : Use) : Option (Except String Record) :=
  (calculator.perform use).1.map Comparison.result

theorem Keeps.knows (keeps : Keeps start texts calculator) (apart : ToldApart (· ∈ texts)) :
    Knows (start.atTime calculator.now) (· ∈ texts) calculator where
  rules := by
    obtain ⟨now, analyses, calls, rfl⟩ := keeps.rules
    exact ⟨analyses, calls, rfl⟩
  faithful text used analysis kept := by
    obtain ⟨source, isUsed, sameFingerprint, rfl⟩ := keeps.found kept
    rw [apart source text isUsed used sameFingerprint]
    rfl

theorem analysis_kept (calculator : Calculator) (fingerprint source : String) :
    (calculator.analysis fingerprint source).2.analyses.lookup fingerprint =
      some (calculator.analysis fingerprint source).1 := by
  rw [Calculator.analysis]
  cases kept : calculator.analyses.lookup fingerprint with
  | some analysis => exact kept
  | none => exact List.lookup_cons_self

theorem analysis_keeps {analysis : Analysis} {fingerprint : String}
    (kept : calculator.analyses.lookup fingerprint = some analysis) (other source : String) :
    (calculator.analysis other source).2.analyses.lookup fingerprint = some analysis := by
  rw [Calculator.analysis]
  cases found : calculator.analyses.lookup other with
  | some analysis => exact kept
  | none =>
      have apart : fingerprint ≠ other := by
        rintro rfl
        cases kept.symm.trans found
      rw [List.lookup_cons, beq_false_of_ne apart]
      exact kept

theorem Knows.compare_kept {sources : String → Prop} {reference candidate : String}
    (knows : Knows start sources calculator) (apart : ToldApart sources) (own : sources reference)
    (own' : sources candidate) :
    ∀ text ∈ [reference, candidate],
      (calculator.compare reference candidate).2.analyses.lookup (Digest.ofText text) =
        some (Analysis.ofSource start.grammar start.editLimit text) := by
  have kept := analysis_kept calculator (Digest.ofText reference) reference
  have parts := compare_result calculator reference candidate
  obtain ⟨between, first, knows⟩ := knows.analysis apart own
  rw [first] at kept parts
  have still := analysis_keeps kept (Digest.ofText candidate) candidate
  have kept' := analysis_kept between (Digest.ofText candidate) candidate
  obtain ⟨after, second, -⟩ := knows.analysis apart own'
  dsimp only at parts still kept'
  rw [second] at parts still kept'
  obtain ⟨-, calls, rest⟩ := parts
  rw [rest, List.forall_mem_cons, List.forall_mem_singleton]
  exact ⟨still, kept'⟩

theorem verdict_of_texts (use : Use) {reference candidate : String}
    (about : use.texts = [reference, candidate]) (calculator : Calculator) :
    (calculator.perform use).2 = (calculator.compare reference candidate).2 ∧
      calculator.verdict use = some (calculator.compare reference candidate).1.result := by
  cases use with
  | sources own own' => cases about; exact ⟨rfl, rfl⟩
  | artifacts own own' => cases about; exact ⟨rfl, rfl⟩
  | clear => cases about

theorem Use.about_two_or_none (use : Use) :
    use = .clear ∨ ∃ reference candidate, use.texts = [reference, candidate] := by
  cases use with
  | sources reference candidate => exact .inr ⟨reference, candidate, rfl⟩
  | artifacts reference candidate => exact .inr ⟨reference.2, candidate.2, rfl⟩
  | clear => exact .inl rfl

/-- Of calculators of the same rules, one that keeps no wrong analysis comes to the verdicts of one
that keeps none, at its own time. -/
theorem Knows.verdict_eq {sources : String → Prop}
    (knows : Knows (start.atTime calculator.now) sources calculator)
    (fresh : start.analyses = []) (apart : ToldApart sources) (use : Use)
    (own : ∀ text ∈ use.texts, sources text) :
    calculator.verdict use = (start.verdict use).map fun verdict =>
      verdict.map fun record => { record with computedAt := calculator.now } := by
  rcases use.about_two_or_none with rfl | ⟨reference, candidate, about⟩
  · rfl
  · rw [about, List.forall_mem_cons, List.forall_mem_singleton] at own
    have plain : Knows (start.atTime calculator.now) sources (start.atTime calculator.now) :=
      ⟨⟨_, _, rfl⟩, fun text _ analysis kept => by rw [atTime, fresh] at kept; cases kept⟩
    rw [(verdict_of_texts use about calculator).2, (verdict_of_texts use about start).2,
      knows.compare_eq plain apart own.1 own.2]
    exact congrArg some (retimed_compare start calculator.now start.calls reference candidate)

end Calculator

open Calculator

/-- What a calculator keeps from a history of calls are the analyses of texts of that history, each
under its own fingerprint. They show in no record: a fresh calculator comes to the same one, but for
the time. The two have the same scores, unless the delegate answered a score to valid sides that is
no number. -/
theorem history_leaves_no_trace (grammar : Grammar) (now : Timestamp) (config : Config)
    (delegate : Option Delegate) (library : Elementary) (history : List (Timestamp × Use))
    (time : Timestamp) (use : Use) (apart : ToldApart (· ∈ use.texts ++ textsOf history))
    (holds : ∀ text ∈ use.texts, grammar.Holds text) :
    let fresh := ofConfig grammar now config delegate library
    let worn := (fresh.after history).atTime time
    let analysisOf := Analysis.ofSource grammar config.editLimit
    (∀ entry ∈ worn.analyses, ∃ text ∈ textsOf history,
      entry = (Digest.ofText text, analysisOf text)) ∧
      (worn.analyses.map Prod.fst).Nodup ∧
      (∀ text ∈ use.texts,
        (worn.perform use).2.analyses.lookup (Digest.ofText text) = some (analysisOf text)) ∧
      worn.verdict use = (fresh.verdict use).map (fun verdict =>
        verdict.map fun record => { record with computedAt := time }) ∧
      ∀ reference candidate record plain, use.texts = [reference, candidate] →
        worn.verdict use = some (.ok record) → fresh.verdict use = some (.ok plain) →
          (record.sameScores plain = true ↔
            (record.ofValidSides = true → ∀ own scores, delegate = some own →
              own.ask reference candidate config.language = .answered (.ok scores) →
                ∀ entry ∈ scores.named, entry.2.isNaN = false)) := by
  intro fresh worn analysisOf
  have keeps : Keeps fresh (textsOf history) worn :=
    (((keeps_of_config grammar now config delegate library).weaken (List.nil_subset _)).after
      (List.Subset.refl _)).at_time time
  have knows := (keeps.weaken (List.subset_append_right use.texts _)).knows apart
  have used : ∀ text ∈ use.texts, text ∈ use.texts ++ textsOf history :=
    fun text member => List.mem_append_left _ member
  have same := knows.verdict_eq rfl apart use used
  refine ⟨keeps.own, keeps.once, ?_, same, ?_⟩
  · rcases use.about_two_or_none with rfl | ⟨reference, candidate, about⟩
    · exact List.forall_mem_nil _
    · rw [(verdict_of_texts use about worn).1, about]
      exact knows.compare_kept apart (used reference (about ▸ List.mem_cons_self))
        (used candidate (about ▸ List.mem_cons_of_mem reference List.mem_cons_self))
  · intro reference candidate record plain about found recorded
    rw [recorded, found] at same
    obtain rfl := Except.ok.inj (Option.some.inj same)
    rw [(verdict_of_texts use about fresh).2] at recorded
    rw [about] at holds
    have result : (((fresh.after []).atTime now).compare reference candidate).1.result =
        .ok plain :=
      Option.some.inj recorded
    obtain ⟨accounts, -, counts⟩ := after_history_record holds result
    rw [Record.same_scores_self_iff counts]
    refine Iff.trans ?_ (accounts.computed_scores_of_delegate fun scores =>
      ∀ entry ∈ scores.named, entry.2.isNaN = false)
    constructor
    · intro numbers scores computed
      exact numbers scores (Option.ite_none_right_eq_some.1 computed).2
    · intro numbers scores found
      rcases Record.computed_or_zero accounts found with computed | rfl
      · exact numbers scores computed
      · decide +kernel

section Instances

theorem idle_texts_apart {sources : String → Prop}
    (idle : ∀ text, sources text → text = "" ∨ text = idleSource) : ToldApart sources := by
  have differ : Digest.ofText "" ≠ Digest.ofText idleSource := by decide +kernel
  intro source other isOwn isOwn' same
  rcases idle source isOwn with rfl | rfl
  · rcases idle other isOwn' with rfl | rfl
    · rfl
    · exact absurd same differ
  · rcases idle other isOwn' with rfl | rfl
    · exact absurd same.symm differ
    · rfl

theorem empty_holds : idleGrammar.Holds "" := by
  refine ⟨?_, ?_⟩
  · show 0 < 2 ^ 64
    decide
  · show 1 < 2 ^ 64
    decide

/-- Other texts compared, the same ones the other way round, and all analyses dropped in between. -/
def mixedHistory : List (Timestamp × Use) :=
  [(newYear, .sources idleSource ""), (newYear, .clear), (newYear, .sources idleSource idleSource)]

theorem mixed_history_repeats_scores : ∃ record plain,
    ((((idleCalculator ⟨0.5, 1.0, 0.0⟩).after mixedHistory).atTime newYear).compare ""
        idleSource).1.result = .ok record ∧
      ((idleCalculator ⟨0.5, 1.0, 0.0⟩).compare "" idleSource).1.result = .ok plain ∧
      record.sameScores plain = true := by
  have answers : ∀ own, some (steadyDelegate ⟨0.5, 1.0, 0.0⟩) = some own →
      ∃ answer, own.ask "" idleSource ({} : Config).language = .answered answer := by
    intro own configured
    obtain rfl := Option.some.inj configured
    exact ⟨_, rfl⟩
  obtain ⟨record, recorded⟩ :=
    exists_record_after_history idleGrammar newYear coarseLibrary mixedHistory newYear answers
  obtain ⟨plain, found⟩ :=
    exists_record_after_history idleGrammar newYear coarseLibrary [] newYear answers
  obtain ⟨-, -, -, -, scores⟩ := history_leaves_no_trace idleGrammar newYear {}
    (some (steadyDelegate ⟨0.5, 1.0, 0.0⟩)) coarseLibrary mixedHistory newYear
    (.sources "" idleSource)
    (idle_texts_apart (by simp [Use.texts, textsOf, mixedHistory]))
    (by simp [Use.texts, idle_holds, empty_holds])
  refine ⟨record, plain, recorded, found, ?_⟩
  have verdicts := verdict_of_texts (.sources "" idleSource) rfl
  apply (scores "" idleSource record plain rfl ((verdicts _).2.trans (congrArg some recorded))
    ((verdicts _).2.trans (congrArg some found))).2
  rintro - own answer configured answered
  obtain rfl := Option.some.inj configured
  obtain rfl := Except.ok.inj (DelegateReply.answered.inj answered)
  decide +kernel

/-- A score that is no number keeps a record from having its own scores. -/
theorem nan_score_differs_from_itself : ∃ record plain,
    ((((idleCalculator ⟨Float.nan, 1.0, 1.0⟩).after
        [(newYear, .sources idleSource idleSource), (newYear, .clear)]).atTime newYear).compare
          idleSource idleSource).1.result = .ok record ∧
      ((idleCalculator ⟨Float.nan, 1.0, 1.0⟩).compare idleSource idleSource).1.result = .ok plain ∧
      record = plain ∧ record.sameScores plain = false := by
  obtain ⟨record, found, -, recorded⟩ := idle_record ⟨Float.nan, 1.0, 1.0⟩
  refine ⟨record, record, recorded _ (by simp [textsOf, Use.texts]),
    recorded [] (List.forall_mem_nil _), rfl, ?_⟩
  have differs : Record.sameDelegateScores ⟨Float.nan, 1.0, 1.0⟩ ⟨Float.nan, 1.0, 1.0⟩ = false := by
    decide +kernel
  simp [Record.sameScores, found, Record.sameOption, differs]

end Instances

end Resemblance
