import Mathlib
import Resemblance.Proofs.Documents
import Resemblance.Proofs.JsonSpacing
import Resemblance.Proofs.SameNumber

/-!
Records with the same scores. All parts of a record but its time are compared: the two main scores
bit by bit, the other scores as numbers, and the rest as it is. On records that were read this is an
equivalence, since they hold numbers only. It respects whatever is taken from a record later: the
same parts are present, and what is computed of the same numbers is the same number. The written
form of a record reads back with the same scores.
-/

namespace Resemblance

section Options

variable {α : Type} {x y z : Option α} {related : α → α → Prop}

theorem Record.same_option_iff {same : α → α → Bool} (own : ∀ a b, same a b = true ↔ related a b) :
    Record.sameOption same x y = true ↔ Option.Rel related x y := by
  cases x with
  | none =>
      cases y with
      | none => exact ⟨fun _ => .none, fun _ => rfl⟩
      | some b => exact ⟨nofun, nofun⟩
  | some a =>
      cases y with
      | none => exact ⟨nofun, nofun⟩
      | some b => exact (own a b).trans Option.rel_some_some.symm

theorem option_rel_cases (both : Option.Rel related x y) :
    x = none ∧ y = none ∨ ∃ a b, x = some a ∧ y = some b ∧ related a b := by
  cases both with
  | none => exact .inl ⟨rfl, rfl⟩
  | some both => exact .inr ⟨_, _, rfl, rfl, both⟩

theorem option_rel_refl (own : ∀ a ∈ x, related a a) : Option.Rel related x x := by
  cases x with
  | none => exact .none
  | some a => exact .some (own a rfl)

theorem option_rel_symm (own : ∀ a b, related a b → related b a) (both : Option.Rel related x y) :
    Option.Rel related y x := by
  cases both with
  | none => exact .none
  | some both => exact .some (own _ _ both)

theorem option_rel_trans (own : ∀ a b c, related a b → related b c → related a c)
    (first : Option.Rel related x y)
    (second : Option.Rel related y z) : Option.Rel related x z := by
  cases first with
  | none => exact second
  | some first =>
      cases second with
      | some second => exact .some (own _ _ _ first second)

end Options

namespace VocabularyScores

/-- Overlaps that are the same numbers. -/
structure Agree (a b : VocabularyScores) : Prop where
  tokens : SameNumber a.tokens b.tokens
  words : SameNumber a.words b.words
  identifiers : SameNumber a.identifiers b.identifiers
  keywords : SameNumber a.keywords b.keywords
  names : SameNumber a.names b.names

variable {a b c : VocabularyScores}

theorem agree_iff : Record.sameVocabularyScores a b = true ↔ Agree a b := by
  simp only [Record.sameVocabularyScores, Bool.and_eq_true, beq_iff_same]
  constructor
  · rintro ⟨⟨⟨⟨tokens, words⟩, identifiers⟩, keywords⟩, names⟩
    exact ⟨tokens, words, identifiers, keywords, names⟩
  · rintro ⟨tokens, words, identifiers, keywords, names⟩
    exact ⟨⟨⟨⟨tokens, words⟩, identifiers⟩, keywords⟩, names⟩

theorem Agree.refl (finite : a.Finite) : Agree a a :=
  ⟨.of_finite finite.tokens, .of_finite finite.words, .of_finite finite.identifiers,
   .of_finite finite.keywords, .of_finite finite.names⟩

theorem Agree.symm (agree : Agree a b) : Agree b a :=
  ⟨agree.tokens.symm, agree.words.symm, agree.identifiers.symm, agree.keywords.symm,
   agree.names.symm⟩

theorem Agree.trans (agree : Agree a b) (agree' : Agree b c) : Agree a c :=
  ⟨agree.tokens.trans agree'.tokens, agree.words.trans agree'.words,
   agree.identifiers.trans agree'.identifiers, agree.keywords.trans agree'.keywords,
   agree.names.trans agree'.names⟩

end VocabularyScores

namespace DelegateScores

/-- Scores of a delegate that are the same numbers. -/
structure Agree (a b : DelegateScores) : Prop where
  weightedNgram : SameNumber a.weightedNgram b.weightedNgram
  syntaxMatch : SameNumber a.syntaxMatch b.syntaxMatch
  dataflowMatch : SameNumber a.dataflowMatch b.dataflowMatch

variable {a b c : DelegateScores}

theorem agree_iff : Record.sameDelegateScores a b = true ↔ Agree a b := by
  simp only [Record.sameDelegateScores, Bool.and_eq_true, beq_iff_same]
  constructor
  · rintro ⟨⟨weightedNgram, syntaxMatch⟩, dataflowMatch⟩
    exact ⟨weightedNgram, syntaxMatch, dataflowMatch⟩
  · rintro ⟨weightedNgram, syntaxMatch, dataflowMatch⟩
    exact ⟨⟨weightedNgram, syntaxMatch⟩, dataflowMatch⟩

theorem Agree.refl (finite : a.Finite) : Agree a a :=
  ⟨.of_finite finite.weightedNgram, .of_finite finite.syntaxMatch, .of_finite finite.dataflowMatch⟩

theorem Agree.symm (agree : Agree a b) : Agree b a :=
  ⟨agree.weightedNgram.symm, agree.syntaxMatch.symm, agree.dataflowMatch.symm⟩

theorem Agree.trans (agree : Agree a b) (agree' : Agree b c) : Agree a c :=
  ⟨agree.weightedNgram.trans agree'.weightedNgram, agree.syntaxMatch.trans agree'.syntaxMatch,
    agree.dataflowMatch.trans agree'.dataflowMatch⟩

theorem sums_sided (finite : a.Finite) :
    (∃ sign, Sided sign (a.weightedNgram + a.syntaxMatch)) ∧
      ∃ sign, Sided sign (a.weightedNgram + a.syntaxMatch + a.dataflowMatch) := by
  obtain ⟨_, _, worth⟩ := worth_of_is_finite finite.weightedNgram
  obtain ⟨sign, two⟩ := worth.sided.add_finite finite.syntaxMatch
  exact ⟨⟨sign, two⟩, two.add_finite finite.dataflowMatch⟩

theorem mean_sided (finite : a.Finite) : ∃ sign, Sided sign a.mean := by
  obtain ⟨-, sign, three⟩ := sums_sided finite
  exact ⟨sign, three.div worth_three three_pos⟩

theorem Agree.mean (agree : Agree a b) (finite : a.Finite) : SameNumber a.mean b.mean := by
  obtain ⟨⟨_, two⟩, _, three⟩ := sums_sided finite
  have first := agree.weightedNgram.add agree.syntaxMatch two.is_number
  exact (first.add agree.dataflowMatch three.is_number).div
    (three.div worth_three three_pos).is_number

end DelegateScores

namespace ShapeScores

/-- Scores of shapes that are the same numbers, and of the same distances; and where one of them is
absent, the other is. -/
structure Agree (a b : ShapeScores) : Prop where
  nodeCountDelta : SameNumber a.nodeCountDelta b.nodeCountDelta
  depthDelta : SameNumber a.depthDelta b.depthDelta
  histogramSimilarity : SameNumber a.histogramSimilarity b.histogramSimilarity
  histogramDistance : SameNumber a.histogramDistance b.histogramDistance
  subtreeOverlap : SameNumber a.subtreeOverlap b.subtreeOverlap
  editDistance : a.editDistance = b.editDistance
  editSimilarity : Option.Rel SameNumber a.editSimilarity b.editSimilarity
  weightedEditDistance : a.weightedEditDistance = b.weightedEditDistance
  weightedEditSimilarity : Option.Rel SameNumber a.weightedEditSimilarity b.weightedEditSimilarity

variable {a b c : ShapeScores}

theorem agree_iff : Record.sameShapeScores a b = true ↔ Agree a b := by
  have options {x y : Option Float} : Record.sameOption (· == ·) x y = true ↔
      Option.Rel SameNumber x y :=
    Record.same_option_iff fun _ _ => beq_iff_same
  simp only [Record.sameShapeScores, Bool.and_eq_true, beq_iff_same, options, beq_iff_eq]
  constructor
  · rintro ⟨⟨⟨⟨⟨⟨⟨⟨nodes, depth⟩, similarity⟩, difference⟩, overlap⟩, edit⟩, unit⟩, weights⟩,
      weighted⟩
    exact ⟨nodes, depth, similarity, difference, overlap, edit, unit, weights, weighted⟩
  · rintro ⟨nodes, depth, similarity, difference, overlap, edit, unit, weights, weighted⟩
    exact ⟨⟨⟨⟨⟨⟨⟨⟨nodes, depth⟩, similarity⟩, difference⟩, overlap⟩, edit⟩, unit⟩, weights⟩,
      weighted⟩

theorem Agree.refl (finite : a.Finite) : Agree a a :=
  ⟨.of_finite finite.nodeCountDelta, .of_finite finite.depthDelta,
   .of_finite finite.histogramSimilarity, .of_finite finite.histogramDistance,
   .of_finite finite.subtreeOverlap, rfl,
    option_rel_refl fun score here => .of_finite (finite.editSimilarity score here), rfl,
    option_rel_refl fun score here => .of_finite (finite.weightedEditSimilarity score here)⟩

theorem Agree.symm (agree : Agree a b) : Agree b a :=
  ⟨agree.nodeCountDelta.symm, agree.depthDelta.symm, agree.histogramSimilarity.symm,
   agree.histogramDistance.symm,
    agree.subtreeOverlap.symm, agree.editDistance.symm,
    option_rel_symm (fun _ _ => .symm) agree.editSimilarity,
    agree.weightedEditDistance.symm,
    option_rel_symm (fun _ _ => .symm) agree.weightedEditSimilarity⟩

theorem Agree.trans (agree : Agree a b) (agree' : Agree b c) : Agree a c :=
  ⟨agree.nodeCountDelta.trans agree'.nodeCountDelta, agree.depthDelta.trans agree'.depthDelta,
    agree.histogramSimilarity.trans agree'.histogramSimilarity,
    agree.histogramDistance.trans agree'.histogramDistance,
    agree.subtreeOverlap.trans agree'.subtreeOverlap, agree.editDistance.trans agree'.editDistance,
    option_rel_trans (fun _ _ _ => .trans) agree.editSimilarity agree'.editSimilarity,
    agree.weightedEditDistance.trans agree'.weightedEditDistance,
    option_rel_trans (fun _ _ _ => .trans) agree.weightedEditSimilarity
      agree'.weightedEditSimilarity⟩

/-- The same numbers give the same similarity: no sum in it is that of opposite infinities. -/
theorem Agree.similarity (agree : Agree a b) (finite : a.Finite) :
    SameNumber a.similarity b.similarity := by
  have nodes := complement_finite finite.nodeCountDelta
  have depth := complement_finite finite.depthDelta
  obtain ⟨_, _, worth⟩ := worth_of_is_finite nodes
  obtain ⟨_, _, worth'⟩ := worth_of_is_finite depth
  obtain ⟨_, two⟩ := worth.sided.add_finite depth
  obtain ⟨_, three⟩ := two.add_finite finite.histogramSimilarity
  have first := agree.nodeCountDelta.complement worth.sided.is_number
  have second := agree.depthDelta.complement worth'.sided.is_number
  have sum := (first.add second two.is_number).add agree.histogramSimilarity three.is_number
  exact (sum.div (three.div worth_three three_pos).is_number).clamp

end ShapeScores

/-- A named metric and another one of its name that is the same number. -/
def SameMetric (a b : String × Float) : Prop :=
  a.1 = b.1 ∧ SameNumber a.2 b.2

theorem same_option_metric {x y : Option Float} (name : String) (same : Option.Rel SameNumber x y) :
    List.Forall₂ SameMetric (x.map fun value => (name, value)).toList
      (y.map fun value => (name, value)).toList := by
  cases same with
  | none => exact .nil
  | some same => exact .cons ⟨rfl, same⟩ .nil

namespace Record

/-- Records that agree in all but their time: in the two main scores bit by bit, in other scores as
numbers. -/
structure Agree (a b : Record) : Prop where
  bleu : a.bleu = b.bleu
  structural : Option.Rel ShapeScores.Agree a.structural b.structural
  delegateScores : Option.Rel DelegateScores.Agree a.delegateScores b.delegateScores
  delegateStatus : a.delegateStatus = b.delegateStatus
  vocabulary : a.vocabulary.Agree b.vocabulary
  validity : a.validity = b.validity
  composite : a.composite = b.composite
  error : a.error = b.error

variable {a b c : Record}

theorem same_bits_iff {x y : Float} : x.toBits = y.toBits ↔ x = y := by
  constructor
  · intro same
    rw [← Float.ofBits_toBits x, same, Float.ofBits_toBits]
  · exact congrArg Float.toBits

theorem same_scores_iff : a.sameScores b = true ↔ a.Agree b := by
  have shapes : sameOption sameShapeScores a.structural b.structural = true ↔
      Option.Rel ShapeScores.Agree a.structural b.structural :=
        same_option_iff fun _ _ => ShapeScores.agree_iff
  have delegates : sameOption sameDelegateScores a.delegateScores b.delegateScores = true ↔
      Option.Rel DelegateScores.Agree a.delegateScores b.delegateScores :=
    same_option_iff fun _ _ => DelegateScores.agree_iff
  simp only [sameScores, Bool.and_eq_true, beq_iff_eq, same_bits_iff, shapes, delegates,
    VocabularyScores.agree_iff]
  constructor
  · rintro ⟨⟨⟨⟨⟨⟨⟨bleu, composite⟩, structural⟩, delegate⟩, status⟩, vocabulary⟩, validity⟩, error⟩
    exact ⟨bleu, structural, delegate, status, vocabulary, validity, composite, error⟩
  · rintro ⟨bleu, structural, delegate, status, vocabulary, validity, composite, error⟩
    exact ⟨⟨⟨⟨⟨⟨⟨bleu, composite⟩, structural⟩, delegate⟩, status⟩, vocabulary⟩, validity⟩, error⟩

theorem Agree.refl (sound : a.Writable) : Agree a a :=
  ⟨rfl, option_rel_refl fun scores here => .refl (sound.structural scores here),
    option_rel_refl fun scores here =>
      .refl (sound.delegateScores scores here), rfl, .refl sound.vocabulary, rfl,
    rfl, rfl⟩

theorem Agree.symm (agree : Agree a b) : Agree b a :=
  ⟨agree.bleu.symm, option_rel_symm (fun _ _ => .symm) agree.structural,
    option_rel_symm (fun _ _ => .symm) agree.delegateScores, agree.delegateStatus.symm,
    agree.vocabulary.symm, agree.validity.symm, agree.composite.symm, agree.error.symm⟩

theorem Agree.trans (agree : Agree a b) (agree' : Agree b c) : Agree a c :=
  ⟨agree.bleu.trans agree'.bleu,
   option_rel_trans (fun _ _ _ => .trans) agree.structural agree'.structural,
    option_rel_trans (fun _ _ _ => .trans) agree.delegateScores agree'.delegateScores,
    agree.delegateStatus.trans agree'.delegateStatus, agree.vocabulary.trans agree'.vocabulary,
    agree.validity.trans agree'.validity, agree.composite.trans agree'.composite,
    agree.error.trans agree'.error⟩

theorem Agree.computed_scores (agree : Agree a b) :
    Option.Rel DelegateScores.Agree a.computedScores b.computedScores := by
  rw [computedScores, computedScores, agree.delegateStatus]
  split
  · exact agree.delegateScores
  · exact .none

theorem Writable.computed_scores (sound : a.Writable) :
    ∀ scores ∈ a.computedScores, scores.Finite := by
  intro scores here
  rw [computedScores] at here
  split at here
  · exact sound.delegateScores scores here
  · cases here

theorem Agree.structural_similarity (agree : Agree a b) (sound : a.Writable) :
    Option.Rel SameNumber a.structuralSimilarity b.structuralSimilarity := by
  rw [structuralSimilarity, structuralSimilarity]
  rcases option_rel_cases agree.structural with ⟨none, none'⟩ | ⟨scores, scores', here, here', both⟩
  · rw [none, none']
    exact .none
  · rw [here, here']
    exact .some (both.similarity (sound.structural scores here))

theorem Agree.semantic_similarity (agree : Agree a b) (sound : a.Writable) :
    SameNumber a.semanticSimilarity b.semanticSimilarity := by
  rw [semanticSimilarity, semanticSimilarity]
  rcases option_rel_cases agree.computed_scores with ⟨none, none'⟩ |
      ⟨scores, scores', here, here', both⟩
  · rw [none, none']
    exact agree.vocabulary.identifiers
  · rw [here, here']
    have finite := sound.computed_scores scores here
    obtain ⟨_, mean⟩ := DelegateScores.mean_sided finite
    obtain ⟨_, sum⟩ := mean.add_finite sound.vocabulary.identifiers
    exact ((both.mean finite).add agree.vocabulary.identifiers sum.is_number).div
      (sum.div worth_two two_pos).is_number

/-- Agreeing records contribute the same metrics: as many, of the same names, and of the same
numbers. -/
theorem Agree.metrics (agree : Agree a b) (sound : a.Writable) :
    List.Forall₂ SameMetric a.metrics b.metrics := by
  rw [Record.metrics, Record.metrics]
  refine List.rel_append (List.rel_append ?_ ?_) ?_
  · have same {x y : Float} (equal : x = y) (finite : x.isFinite = true) : SameNumber x y :=
      equal ▸ .of_finite finite
    simp only [List.forall₂_cons, List.forall₂_nil_left_iff]
    exact ⟨⟨rfl, same agree.bleu sound.bleu⟩, ⟨rfl, same agree.composite sound.composite⟩,
      ⟨rfl, agree.vocabulary.tokens⟩, ⟨rfl, agree.vocabulary.words⟩,
      ⟨rfl, agree.vocabulary.identifiers⟩, ⟨rfl, agree.vocabulary.keywords⟩,
      ⟨rfl, agree.vocabulary.names⟩, ⟨rfl, agree.semantic_similarity sound⟩, trivial⟩
  · rcases option_rel_cases agree.structural with ⟨none, none'⟩ |
        ⟨scores, scores', here, here', both⟩
    · rw [none, none']
      exact .nil
    · rw [here, here']
      have similarity := both.similarity (sound.structural scores here)
      refine List.rel_append (List.rel_append ?_ (same_option_metric _ both.editSimilarity))
        (same_option_metric _ both.weightedEditSimilarity)
      simp only [List.forall₂_cons, List.forall₂_nil_left_iff]
      exact ⟨⟨rfl, both.nodeCountDelta⟩, ⟨rfl, both.depthDelta⟩, ⟨rfl, both.histogramSimilarity⟩,
        ⟨rfl, both.histogramDistance⟩, ⟨rfl, both.subtreeOverlap⟩, ⟨rfl, similarity⟩, trivial⟩
  · rcases option_rel_cases agree.computed_scores with ⟨none, none'⟩ |
        ⟨scores, scores', here, here', both⟩
    · rw [none, none']
      exact .nil
    · rw [here, here']
      have mean := both.mean (sound.computed_scores scores here)
      simp only [List.forall₂_cons, List.forall₂_nil_left_iff]
      exact ⟨⟨rfl, both.weightedNgram⟩, ⟨rfl, both.syntaxMatch⟩, ⟨rfl, both.dataflowMatch⟩,
        ⟨rfl, mean⟩, trivial⟩

/-- A record that is read from some JSON document. -/
def Decodable (record : Record) : Prop :=
  ∃ json, ofJson? json = some record

theorem Decodable.writable (decodable : a.Decodable) : a.Writable := by
  obtain ⟨json, read⟩ := decodable
  exact ensures json a read

/-- A record that was read, written and read again is the record, however the text is laid out. -/
theorem Decodable.read_again (decodable : a.Decodable) {text : String}
    (same : Json.Respaced a.toJson.pretty.toList text.toList) :
    (Json.read text).bind ofJson? = some a := by
  rw [← Json.read_respaced same, Json.read_pretty (reads.writable a decodable.writable),
    Option.bind_some, reads.read a decodable.writable]

end Record

/-- On the records that are read from JSON documents, having the same scores is an equivalence. It
says that all parts but the time agree, and no time changes it. Records with the same scores have an
error both or neither, were compared both or neither, and have metrics of the same names, of which
all are the same numbers, as are their similarities. And every such record has the scores of what
its written form is read as. -/
theorem same_scores_is_congruence :
    Equivalence (fun a b : { record : Record // record.Decodable } => a.1.sameScores b.1 = true) ∧
    (∀ a b : Record, a.sameScores b = true ↔ a.Agree b) ∧
    (∀ (a b : Record) (time time' : Timestamp),
      ({ a with computedAt := time } : Record).sameScores { b with computedAt := time' } =
        a.sameScores b) ∧
    (∀ a b : Record, a.Decodable → a.sameScores b = true →
      a.hasError = b.hasError ∧ a.wasCompared = b.wasCompared ∧
      a.metrics.map Prod.fst = b.metrics.map Prod.fst ∧
      List.Forall₂ SameNumber (a.metrics.map Prod.snd) (b.metrics.map Prod.snd) ∧
      Option.Rel SameNumber a.structuralSimilarity b.structuralSimilarity ∧
      SameNumber a.semanticSimilarity b.semanticSimilarity) ∧
    ∀ a : Record, a.Decodable → ∀ text : String, Json.Respaced a.toJson.pretty.toList text.toList →
      ∃ b, (Json.read text).bind Record.ofJson? = some b ∧ a.sameScores b = true := by
  have self {a : Record} (decodable : a.Decodable) : a.sameScores a = true :=
    Record.same_scores_iff.2 (.refl decodable.writable)
  refine ⟨⟨fun a => self a.2, fun same => ?_, fun same same' => ?_⟩,
    fun a b => Record.same_scores_iff, fun a b time time' => rfl, fun a b decodable same => ?_,
    fun a decodable text same => ?_⟩
  · exact Record.same_scores_iff.2 (Record.same_scores_iff.1 same).symm
  · exact Record.same_scores_iff.2
      ((Record.same_scores_iff.1 same).trans (Record.same_scores_iff.1 same'))
  · have sound := decodable.writable
    have agree := Record.same_scores_iff.1 same
    have metrics := agree.metrics sound
    refine ⟨congrArg Option.isSome agree.error, congrArg Option.isSome agree.validity, ?_, ?_,
      agree.structural_similarity sound, agree.semantic_similarity sound⟩
    · rw [← List.forall₂_eq_eq_eq, List.forall₂_map_left_iff, List.forall₂_map_right_iff]
      exact metrics.imp fun _ _ both => both.1
    · rw [List.forall₂_map_left_iff, List.forall₂_map_right_iff]
      exact metrics.imp fun _ _ both => both.2
  · exact ⟨a, decodable.read_again same, self decodable⟩

def zeroComparison (bits : UInt64) (time : Timestamp) : Record :=
  { bleu := 0.5
    structural := some
      { nodeCountDelta := Float.ofBits bits
        depthDelta := 0.0
        histogramSimilarity := 1.0
        histogramDistance := 0.0
        subtreeOverlap := 0.25
        editDistance := some 3
        editSimilarity := some 0.75
        weightedEditDistance := none
        weightedEditSimilarity := none }
    delegateScores := some ⟨0.5, 0.25, 1.0⟩
    delegateStatus := .computed
    vocabulary := ⟨0.5, 0.5, 0.75, 1.0, 1.0⟩
    validity := some ⟨.valid, .valid⟩
    composite := 0.625
    error := none
    computedAt := time }

theorem zero_comparison_decodable {bits : UInt64} {time : Timestamp}
    (finite : (Float.ofBits bits).isFinite = true) (written : time.Written) :
    (zeroComparison bits time).Decodable := by
  have zero : (0.0 : Float).isFinite = true := by decide +kernel
  have quarter : (0.25 : Float).isFinite = true := by decide +kernel
  have half : (0.5 : Float).isFinite = true := by decide +kernel
  have fiveEighths : (0.625 : Float).isFinite = true := by decide +kernel
  have threeQuarters : (0.75 : Float).isFinite = true := by decide +kernel
  have one : (1.0 : Float).isFinite = true := by decide +kernel
  have only {α : Type} {P : α → Prop} {x : α} (holds : P x) : ∀ y ∈ some x, P y :=
    fun _ here => Option.some.inj here ▸ holds
  have writable : (zeroComparison bits time).Writable :=
    { bleu := half
      structural := only
        ⟨finite, zero, one, zero, quarter, only (by decide), only threeQuarters, nofun, nofun⟩
      delegateScores := only ⟨half, quarter, one⟩
      vocabulary := ⟨half, half, threeQuarters, one, one⟩
      composite := fiveEighths
      computedAt := written }
  exact ⟨_, Record.reads.read _ writable⟩

/-- Two comparisons at different times whose scores differ in the sign of a zero. -/
theorem zeros_of_both_signs_have_same_scores :
    let a := zeroComparison 0 ⟨0, 0⟩
    let b := zeroComparison 0x8000000000000000 ⟨86400, 5⟩
    a.Decodable ∧ b.Decodable ∧ a.sameScores b = true ∧
    a.metrics.map Prod.fst = b.metrics.map Prod.fst ∧
      SameNumber a.semanticSimilarity b.semanticSimilarity ∧
      ∃ c, (Json.read a.toJson.pretty).bind Record.ofJson? = some c ∧ a.sameScores c = true := by
  intro a b
  have decodable : a.Decodable :=
    zero_comparison_decodable (float_of_bits_finite _ (by decide))
      ⟨.inl (by decide), by decide, by decide⟩
  have decodable' : b.Decodable :=
    zero_comparison_decodable (float_of_bits_finite _ (by decide))
      ⟨.inl (by decide), by decide, by decide⟩
  have same : a.sameScores b = true := by decide +kernel
  obtain ⟨-, -, -, congruence, written⟩ := same_scores_is_congruence
  obtain ⟨-, -, names, -, -, semantic⟩ := congruence a b decodable same
  exact ⟨decodable, decodable', same, names, semantic, written a decodable _ rfl⟩

end Resemblance
