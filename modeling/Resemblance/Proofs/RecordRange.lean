import Mathlib
import Resemblance.Proofs.CompositeRange
import Resemblance.Proofs.RecordParts

/-!
The range of what a record holds. Nothing but the answer of a delegate can bring a record out of the
unit interval: its scores and metrics are there exactly where those that a delegate answered pass
the check that scores from a program's output have to pass.
-/

namespace Resemblance

namespace Record

def countScores (record : Record) : List Float :=
  record.vocabulary.values ++ record.structural.elim [] ShapeScores.values

/-- The scores of the two texts themselves, which neither a delegate nor the weights enter. -/
def textScores (record : Record) : List Float :=
  record.bleu :: record.countScores

def scores (record : Record) : List Float :=
  record.composite :: record.textScores ++
    record.delegateScores.elim [] fun scores => scores.named.map Prod.snd

variable {record : Record}

theorem semantic_similarity_within (identifiers : Within 1 record.vocabulary.identifiers)
    (answered : ∀ scores, record.computedScores = some scores → Within 1 scores.mean) :
    Within 1 record.semanticSimilarity := by
  unfold semanticSimilarity
  split
  next scores found => exact mean_of_two_within (answered scores found) identifiers
  next => exact identifiers

theorem named_within {value : Option Float} {name : String}
    (within : ∀ score ∈ value.toList, Within 1 score) :
    ∀ entry ∈ (value.map fun score => (name, score)).toList, Within 1 entry.2 := by
  cases value with
  | none => exact List.forall_mem_nil _
  | some score =>
      intro entry member
      obtain rfl := List.mem_singleton.1 member
      exact within score List.mem_cons_self

theorem metrics_within (own : ∀ score ∈ record.scores, Within 1 score) :
    ∀ metric ∈ record.metrics, Within 1 metric.2 := by
  simp only [scores, textScores, countScores, VocabularyScores.values, List.cons_append,
    List.forall_mem_append, List.forall_mem_cons] at own
  obtain ⟨composite, bleu, tokens, words, identifiers, keywords, names, ⟨-, structural⟩,
      delegate⟩ := own
  have answered : ∀ scores, record.computedScores = some scores →
      ∀ entry ∈ scores.named, Within 1 entry.2 := by
    intro scores found entry member
    rw [computedScores, Option.ite_none_right_eq_some] at found
    rw [found.2] at delegate
    exact delegate entry.2 (List.mem_map_of_mem member)
  have semantic := semantic_similarity_within identifiers fun scores found =>
    DelegateScores.mean_within (answered scores found)
  simp only [metrics, List.forall_mem_append, List.forall_mem_cons]
  refine ⟨⟨⟨bleu, composite, tokens, words, identifiers, keywords, names, semantic,
    List.forall_mem_nil _⟩, ?_⟩, ?_⟩
  · cases found : record.structural with
    | none => exact List.forall_mem_nil _
    | some scores =>
        rw [found] at structural
        have similarity := ShapeScores.similarity_within structural
        simp only [Option.elim, ShapeScores.values, List.forall_mem_append, List.forall_mem_cons]
          at structural
        obtain ⟨⟨⟨nodes, depth, histogram, distance, overlap, -⟩, edit⟩, weighted⟩ := structural
        simp only [List.forall_mem_append, List.forall_mem_cons]
        refine ⟨⟨⟨nodes, depth, histogram, distance, overlap, similarity, List.forall_mem_nil _⟩,
          ?_⟩, ?_⟩
        · exact named_within edit
        · exact named_within weighted
  · cases found : record.computedScores with
    | none => exact List.forall_mem_nil _
    | some scores =>
        have within := answered scores found
        have mean := DelegateScores.mean_within within
        simp only [DelegateScores.named, List.forall_mem_cons] at within
        simp only [List.forall_mem_cons]
        exact ⟨within.1, within.2.1, within.2.2.1, mean, List.forall_mem_nil _⟩

theorem scores_within {weights : Weights Float} (sound : weights.Sound)
    (composed : record.composite = compositeScore weights record.bleu record.structuralSimilarity
      (record.computedScores.map DelegateScores.mean))
    (own : ∀ score ∈ record.textScores, Within 1 score)
    (answered : ∀ scores, record.delegateScores = some scores →
      ∀ entry ∈ scores.named, Within 1 entry.2) :
    ∀ score ∈ record.scores, Within 1 score := by
  simp only [scores, List.cons_append, List.forall_mem_append, List.forall_mem_cons]
  refine ⟨?_, own, ?_⟩
  · simp only [textScores, countScores, List.forall_mem_append, List.forall_mem_cons] at own
    rw [composed]
    apply composite_within sound own.1
    · intro similarity found
      obtain ⟨scores, structure_found, rfl⟩ := Option.map_eq_some_iff.1 found
      have structural := own.2.2
      rw [structure_found] at structural
      exact ShapeScores.similarity_within structural
    · intro mean found
      obtain ⟨scores, computed, rfl⟩ := Option.map_eq_some_iff.1 found
      rw [computedScores, Option.ite_none_right_eq_some] at computed
      exact DelegateScores.mean_within (answered scores computed.2)
  · cases found : record.delegateScores with
    | none => exact List.forall_mem_nil _
    | some scores => exact List.forall_mem_map.2 (answered scores found)

theorem zero_scores_within : ∀ entry ∈ DelegateScores.zero.named, Within 1 entry.2 := by
  simp only [DelegateScores.named, DelegateScores.zero, List.forall_mem_cons]
  exact ⟨zero_within, zero_within, zero_within, List.forall_mem_nil _⟩

theorem computed_scores_iff {weights : Weights Float} {reply : Option (String × DelegateReply)}
    (accounts : record.Accounts weights reply) (scores : DelegateScores) :
    record.computedScores = some scores ↔
      record.ofValidSides = true ∧ ∃ name, reply = some (name, .answered (.ok scores)) := by
  rw [computedScores, Option.ite_none_right_eq_some]
  constructor
  · rintro ⟨computed, found⟩
    obtain ⟨valid, name, answered, replied⟩ := accounts.computed.1 computed
    obtain rfl :=
      Option.some.inj ((accounts.scores_given name answered computed replied).symm.trans found)
    exact ⟨valid, name, replied⟩
  · rintro ⟨valid, name, replied⟩
    have computed := accounts.computed.2 ⟨valid, name, scores, replied⟩
    exact ⟨computed, accounts.scores_given name scores computed replied⟩

theorem Accounts.computed_scores_of_delegate {weights : Weights Float} {delegate : Option Delegate}
    {reference candidate language : String}
    (accounts : record.Accounts weights (delegate.map fun own =>
      (own.name, own.ask reference candidate language))) (passes : DelegateScores → Prop) :
    (∀ scores, record.computedScores = some scores → passes scores) ↔
      (record.ofValidSides = true → ∀ own scores, delegate = some own →
        own.ask reference candidate language = .answered (.ok scores) → passes scores) := by
  constructor
  · intro all sides own scores found answered
    apply all
    refine (computed_scores_iff accounts scores).2 ⟨sides, own.name, ?_⟩
    rw [found, Option.map_some, answered]
  · intro all scores computed
    obtain ⟨sides, name, replied⟩ := (computed_scores_iff accounts scores).1 computed
    obtain ⟨own, found, same⟩ := Option.map_eq_some_iff.1 replied
    exact all sides own scores found (Prod.mk.inj same).2

theorem computed_or_zero {weights : Weights Float} {reply : Option (String × DelegateReply)}
    {scores : DelegateScores} (accounts : record.Accounts weights reply)
    (found : record.delegateScores = some scores) :
    record.computedScores = some scores ∨ scores = .zero := by
  rcases accounts.scores_present.1 (by rw [found]; rfl) with computed | failed
  · exact .inl (by rw [computedScores, if_pos computed, found])
  · exact .inr (Option.some.inj (found.symm.trans (accounts.scores_zero failed)))

/-- The scores of a record are in the unit interval exactly where those of its delegate pass their
check. -/
theorem in_unit_iff_checked {weights : Weights Float} (sound : weights.Sound)
    {reply : Option (String × DelegateReply)} (accounts : record.Accounts weights reply)
    (own : ∀ score ∈ record.textScores, Within 1 score) :
    ((∀ score ∈ record.scores, InUnit score) ∧ ∀ metric ∈ record.metrics, InUnit metric.2) ↔
      ∀ scores, record.computedScores = some scores → scores.check = .ok scores := by
  simp only [in_unit_iff, DelegateScores.check_ok_iff]
  constructor
  · rintro ⟨all, -⟩ scores computed entry member
    rw [computedScores, Option.ite_none_right_eq_some] at computed
    apply all
    rw [Record.scores, computed.2]
    exact List.mem_append_right _ (List.mem_map_of_mem member)
  · intro checked
    have answered : ∀ scores, record.delegateScores = some scores →
        ∀ entry ∈ scores.named, Within 1 entry.2 := by
      intro scores found
      rcases computed_or_zero accounts found with computed | rfl
      · exact checked scores computed
      · exact zero_scores_within
    have all := scores_within sound accounts.composite own answered
    exact ⟨all, metrics_within all⟩

end Record

namespace Calculator

variable {grammar : Grammar} {source source' : String}

theorem count_scores_within (calculator : Calculator) (limit : Nat) (part : DelegatePart)
    (reference candidate : String) (holds : grammar.Holds source) (holds' : grammar.Holds source') :
    ∀ score ∈ (calculator.record reference candidate (Analysis.ofSource grammar limit source)
      (Analysis.ofSource grammar limit source') part).countScores, Within 1 score := by
  obtain ⟨few, once, fits⟩ := Analysis.fits_of_source holds limit
  obtain ⟨few', once', fits'⟩ := Analysis.fits_of_source holds' limit
  generalize Analysis.ofSource grammar limit source = a at few once fits ⊢
  generalize Analysis.ofSource grammar limit source' = b at few' once' fits' ⊢
  rw [Record.countScores, List.forall_mem_append]
  refine ⟨Vocabulary.compare_within once once' few few', ?_⟩
  unfold record
  dsimp only
  split
  next =>
    split
    next profile profile' found found' =>
      exact ShapeScores.compare_within (fits profile found) (fits' profile' found')
    next => exact List.forall_mem_nil _
  next => exact List.forall_mem_nil _

section History

variable {now time : Timestamp} {config : Config} {delegate : Option Delegate}
  {library : Elementary}
variable {history : List (Timestamp × Use)} {reference candidate : String}

/-- After whatever history, a record accounts for what the delegate replied, and its scores are in
the unit interval where they follow from counts. -/
theorem after_history_record {record : Record}
    (holds : ∀ text ∈ reference :: candidate :: textsOf history, grammar.Holds text)
    (recorded :
      ((((ofConfig grammar now config delegate library).after history).atTime time).compare
      reference candidate).1.result = .ok record) :
    record.Accounts config.weights (delegate.map fun own =>
        (own.name, own.ask reference candidate config.language)) ∧
      record.bleu = Bleu.score config.maxOrder reference candidate library ∧
      ∀ score ∈ record.countScores, Within 1 score := by
  obtain ⟨source, used, -, source', used', -, parts⟩ :=
    after_history_verdict grammar now config library history time reference candidate
  obtain ⟨part, given, rfl⟩ := part_of_recorded ((parts delegate).symm.trans recorded)
  have accounts := record_accounts (ofConfig grammar time config none library) reference candidate
    (Analysis.profile_isSome grammar config.editLimit source)
    (Analysis.profile_isSome grammar config.editLimit source') given
  have counts := count_scores_within
    (ofConfig grammar time config none library) config.editLimit part
    reference candidate (holds source used) (holds source' used')
  exact ⟨accounts, rfl, counts⟩

theorem exists_record_after_history (grammar : Grammar) (now : Timestamp) (library : Elementary)
    (history : List (Timestamp × Use)) (time : Timestamp) (answers : ∀ own, delegate = some own →
      ∃ answer, own.ask reference candidate config.language = .answered answer) :
    ∃ record, ((((ofConfig grammar now config delegate library).after history).atTime time).compare
      reference candidate).1.result = .ok record := by
  obtain ⟨source, -, -, source', -, -, parts⟩ :=
    after_history_verdict grammar now config library history time reference candidate
  rw [parts delegate]
  cases given : partOf _ (delegate.map fun own =>
      (own.name, own.ask reference candidate config.language)) with
  | ok part => exact ⟨_, rfl⟩
  | error detail =>
      obtain ⟨-, name, crashed⟩ := (part_of_eq_error_iff detail).1 given
      obtain ⟨own, found, replied⟩ := Option.map_eq_some_iff.1 crashed
      obtain ⟨answer, answered⟩ := answers own found
      rw [answered] at replied
      cases replied

end History

end Calculator

open Calculator

/-- After whatever history, and with whatever answer of a delegate, the scores of the two texts
themselves are in the unit interval; and everything that the record holds and its metrics are there
exactly where the scores that the delegate answers to valid sides, if it answers any, pass their
check. -/
theorem scores_leave_unit_by_delegate_only (grammar : Grammar) (now : Timestamp) (config : Config)
    (delegate : Option Delegate) (library : Elementary) (history : List (Timestamp × Use))
    (time : Timestamp)
    (reference candidate : String) (lawful : library.Lawful) (valid : config.validate = .ok ())
    (finite : (config.weights.bleu + config.weights.structural + config.weights.delegate).isFinite =
      true)
    (holds : ∀ text ∈ reference :: candidate :: textsOf history, grammar.Holds text)
    (answers : ∀ own, delegate = some own →
      ∃ answer, own.ask reference candidate config.language = .answered answer) :
    ∃ record, ((((ofConfig grammar now config delegate library).after history).atTime time).compare
        reference candidate).1.result = .ok record ∧
      (∀ score ∈ record.textScores, InUnit score) ∧
      (((∀ score ∈ record.scores, InUnit score) ∧ ∀ metric ∈ record.metrics, InUnit metric.2) ↔
        (record.ofValidSides = true → ∀ own scores, delegate = some own →
          own.ask reference candidate config.language = .answered (.ok scores) →
            scores.check = .ok scores)) := by
  obtain ⟨record, recorded⟩ := exists_record_after_history grammar now library history time answers
  obtain ⟨accounts, bleu, counts⟩ := after_history_record holds recorded
  have own : ∀ score ∈ record.textScores, Within 1 score := by
    rw [Record.textScores, List.forall_mem_cons, bleu]
    have text := (holds reference List.mem_cons_self).text
    have text' := (holds candidate (List.mem_cons_of_mem reference List.mem_cons_self)).text
    exact ⟨Bleu.score_within lawful config.maxOrder text text', counts⟩
  refine ⟨record, recorded, fun score member => in_unit_iff.2 (own score member), ?_⟩
  rw [Record.in_unit_iff_checked (Config.sound_weights valid finite) accounts own]
  exact accounts.computed_scores_of_delegate fun scores => scores.check = .ok scores

section Instances

def idleSource : String := "pass\n"

/-- The grammar of a source that does nothing, and of empty ones. -/
def idleGrammar : Grammar := fun source =>
  .node ⟨"module", true, false, false, false, 0, source.utf8ByteSize⟩
    (if source = idleSource then [.node ⟨"pass_statement", true, false, false, false, 0, 4⟩ []]
     else [])

theorem idle_holds : idleGrammar.Holds idleSource := by
  refine ⟨?_, ?_⟩
  · show 5 < 2 ^ 64
    decide
  · show 2 < 2 ^ 64
    decide

def newYear : Timestamp := ⟨1735689600, 0⟩

/-- A delegate that gives every pair the same scores, which it does not check. -/
def steadyDelegate (scores : DelegateScores) : Delegate where
  name := "scripted"
  ask _ _ _ := .answered (.ok scores)

def idleCalculator (scores : DelegateScores) : Calculator :=
  .ofConfig idleGrammar newYear {} (some (steadyDelegate scores)) coarseLibrary

theorem idle_record (scores : DelegateScores) : ∃ record : Record,
    record.delegateScores = some scores ∧ record.delegateStatus = .computed ∧
      ∀ history, (∀ text ∈ textsOf history, text = idleSource) →
        ((((idleCalculator scores).after history).atTime newYear).compare idleSource
          idleSource).1.result = .ok record := by
  let analysis := Analysis.ofSource idleGrammar ({} : Config).editLimit idleSource
  refine ⟨(ofConfig idleGrammar newYear {} none coarseLibrary).record idleSource idleSource
    analysis analysis (.ofAnswer "scripted" (.ok scores)), rfl, rfl, ?_⟩
  intro history idle
  obtain ⟨source, used, -, source', used', -, parts⟩ := after_history_verdict idleGrammar newYear {}
    coarseLibrary history newYear idleSource idleSource
  have same : ∀ text ∈ idleSource :: idleSource :: textsOf history, text = idleSource := by
    simpa only [List.forall_mem_cons, true_and] using idle
  obtain rfl := same source used
  obtain rfl := same source' used'
  exact parts (some (steadyDelegate scores))

theorem modest_delegate_stays_in_unit : ∃ record,
    ((idleCalculator ⟨0.5, 1.0, 0.0⟩).compare idleSource idleSource).1.result = .ok record ∧
      (∀ score ∈ record.scores, InUnit score) ∧ ∀ metric ∈ record.metrics, InUnit metric.2 := by
  obtain ⟨record, result, -, range⟩ := scores_leave_unit_by_delegate_only idleGrammar newYear {}
    (some (steadyDelegate ⟨0.5, 1.0, 0.0⟩)) coarseLibrary [] newYear idleSource idleSource
    coarse_library_lawful rfl (by decide +kernel) (by simp [textsOf, idle_holds])
    (fun own found => ⟨.ok ⟨0.5, 1.0, 0.0⟩, by obtain rfl := Option.some.inj found; rfl⟩)
  refine ⟨record, result, range.2 ?_⟩
  rintro - own scores found answered
  obtain rfl := Option.some.inj found
  obtain rfl := Except.ok.inj (DelegateReply.answered.inj answered)
  rfl

/-- A delegate that answers two for a score has its record hold it. -/
theorem boastful_delegate_leaves_unit : ({} : Config).validate = .ok () ∧ ∃ record,
    ((idleCalculator ⟨2.0, 1.0, 1.0⟩).compare idleSource idleSource).1.result = .ok record ∧
      (∃ score ∈ record.scores, ¬ InUnit score) ∧ ∃ metric ∈ record.metrics, ¬ InUnit metric.2 := by
  obtain ⟨record, found, computed, recorded⟩ := idle_record ⟨2.0, 1.0, 1.0⟩
  have exceeds : ¬ InUnit 2.0 := by
    rintro ⟨-, most⟩
    exact absurd most (by decide +kernel)
  refine ⟨rfl, record, recorded [] (List.forall_mem_nil _), ⟨2.0, ?_, exceeds⟩,
    ("delegate_weighted_ngram", 2.0), ?_, exceeds⟩
  · simp [Record.scores, found, DelegateScores.named]
  · simp [Record.metrics, Record.computedScores, found, computed]

end Instances

end Resemblance
