import Mathlib
import Resemblance.Proofs.BucketAccounts
import Resemblance.Proofs.ConsistencyRange
import Resemblance.Proofs.HistogramScores
import Resemblance.Proofs.SampleVariance

/-!
Consistency in exact arithmetic. The scores of records are read as the numbers that they stand for,
and all that is computed from them is exact. Then a consistency is at most the mean of its values,
and it is the mean exactly where this is zero or the values are all equal; records that were never
compared have no values, so that they may stand anywhere.
-/

namespace Resemblance

section Numbers

/-- The number that a double stands for; zero where there is none. -/
noncomputable def exactValue (x : Float) : ℝ :=
  match x.toModel.unpack with
  | .finite .positive mantissa exponent _ => mantissa * (2 : Nat) ^ exponent
  | .finite .negative mantissa exponent _ => -(mantissa * (2 : Nat) ^ exponent)
  | _ => 0

theorem Worth.exact_value {x : Float} {number : ℝ} (worth : Worth .positive x number) :
    exactValue x = number := by
  unfold Worth at worth
  unfold exactValue
  generalize x.toModel.unpack = unpacked at worth ⊢
  cases worth with
  | zero own => rfl
  | finite mantissa exponent positive canonical =>
      show (mantissa : ℝ) * ((2 : Nat) : ℝ) ^ exponent = _
      rw [Nat.cast_ofNat]

theorem InUnit.exact_value {x : Float} (unit : InUnit x) : exactValue x ∈ Set.Icc (0 : ℝ) 1 := by
  obtain ⟨number, most, worth⟩ := in_unit_iff.1 unit
  rw [worth.exact_value]
  exact ⟨worth.nonneg, most⟩

theorem at_most_real (bound x : ℝ) : Scalar.atMost bound x = min x bound := by
  rw [Scalar.atMost]
  split
  next less => exact (min_eq_left (of_decide_eq_true less).le).symm
  next not_less => exact (min_eq_right (not_lt.1 fun less => not_less (decide_eq_true less))).symm

theorem literal_three : (3.0 : Float) = (3 : Nat).toFloat := by
  decide +kernel

end Numbers

section Score

variable {values : List ℝ}

theorem mean_eq_sum_div (some : values ≠ []) : mean values = values.sum / values.length := by
  have positive : (values.length : ℝ) ≠ 0 := Nat.cast_ne_zero.2 (List.length_pos_of_ne_nil some).ne'
  rw [eq_div_iff positive, mul_comm, length_mul_mean]

theorem consistency_eq (some : values ≠ []) :
    consistency values = values.sum / values.length * (1 - min (deviation values) 1) := by
  obtain ⟨first, rest, rfl⟩ := List.exists_cons_of_ne_nil some
  have one : (Scalar.one : ℝ) = 1 := Nat.cast_one
  change mean (first :: rest) *
    (Scalar.one - Scalar.atMost Scalar.one (deviation (first :: rest))) = _
  rw [mean_eq_sum_div some, at_most_real, one]

/-- What a consistency says of its values: there is none without values; it is at most their mean,
and it is the mean exactly where that is zero or the values are all equal. -/
structure MeasuresConsistency (values : List ℝ) (score : ℝ) : Prop where
  unit : score ∈ Set.Icc (0 : ℝ) 1
  nothing : values = [] → score = 0
  most : values ≠ [] → score ≤ values.sum / values.length
  full : values ≠ [] → (score = values.sum / values.length ↔
    values.sum / values.length = 0 ∨ ∀ x ∈ values, ∀ y ∈ values, x = y)

theorem consistency_measures (unit : ∀ value ∈ values, value ∈ Set.Icc (0 : ℝ) 1) :
    MeasuresConsistency values (consistency values) := by
  by_cases none : values = []
  · have nothing : consistency values = 0 := by
      rw [none]
      exact Nat.cast_zero
    rw [nothing]
    exact ⟨⟨le_rfl, zero_le_one⟩, fun _ => rfl, fun some => absurd none some,
      fun some => absurd none some⟩
  · have mean : values.sum / values.length ∈ Set.Icc (0 : ℝ) 1 :=
      mean_eq_sum_div none ▸ mean_between none unit
    have share : 0 ≤ min (deviation values) 1 := le_min (deviation_nonneg values) zero_le_one
    have rest : 1 - min (deviation values) 1 ∈ Set.Icc (0 : ℝ) 1 :=
      ⟨sub_nonneg.2 (min_le_right _ _), sub_le_self 1 share⟩
    have most := mul_le_of_le_one_right mean.1 rest.2
    have undivided : min (deviation values) 1 = 0 ↔ deviation values = 0 := by
      constructor
      · intro nothing
        rcases min_choice (deviation values) 1 with same | same
        · rwa [same] at nothing
        · exact absurd (same.symm.trans nothing) one_ne_zero
      · intro nothing
        rw [nothing, min_eq_left zero_le_one]
    rw [consistency_eq none]
    refine ⟨⟨mul_nonneg mean.1 rest.1, most.trans mean.2⟩, fun some => absurd some none,
      fun _ => most, fun _ => ?_⟩
    rw [mul_right_eq_self₀, sub_eq_self, undivided, deviation_eq_zero_iff, or_comm]

end Score

section Reading

variable {α : Type} [Scalar α] (read : Float → α)

/-- The structural similarity in the given numbers, in which the scores are read. -/
def ShapeScores.similarityIn (scores : ShapeScores) : α :=
  clampUnit
    (((Scalar.one - read scores.nodeCountDelta) + (Scalar.one - read scores.depthDelta) +
      read scores.histogramSimilarity) / Scalar.ofNat 3)

def DelegateScores.meanIn (scores : DelegateScores) : α :=
  (read scores.weightedNgram + read scores.syntaxMatch + read scores.dataflowMatch) / Scalar.ofNat 3

def Record.semanticIn (record : Record) : α :=
  match record.computedScores with
  | some scores => (scores.meanIn read + read record.vocabulary.identifiers) / Scalar.ofNat 2
  | none => read record.vocabulary.identifiers

/-- What a bucket can be consistent in. -/
inductive Aspect where
  | overall
  | structural
  | semantic

def Aspect.value? : Aspect → Record → Option α
  | overall, record => some (read record.composite)
  | structural, record => record.structural.map (ShapeScores.similarityIn read)
  | semantic, record => some (record.semanticIn read)

/-- The values of an aspect, of those records that were compared. -/
def Aspect.values (aspect : Aspect) (records : List Record) : List α :=
  (records.filter Record.wasCompared).filterMap (aspect.value? read)

def consistencyIn (records : List Record) (aspect : Aspect) : α :=
  consistency (aspect.values read records)

def averageIn (records : List Record) : α :=
  (consistencyIn read records .overall + consistencyIn read records .structural +
    consistencyIn read records .semantic) / Scalar.ofNat 3

def Grade.ofScoreIn (score : α) : Grade :=
  if Scalar.le (Scalar.ofNat 4 / Scalar.ofNat 5) score then a
  else if Scalar.le (Scalar.ofNat 3 / Scalar.ofNat 5) score then b
  else if Scalar.le (Scalar.ofNat 2 / Scalar.ofNat 5) score then c
  else if Scalar.le (Scalar.ofNat 1 / Scalar.ofNat 5) score then d
  else f

end Reading

section Doubles

theorem Grade.of_score_in_doubles (score : Float) : ofScoreIn score = ofScore score := by
  have fifth (count : Nat) : (Scalar.ofNat count : Float) / Scalar.ofNat 5 =
      count.toFloat / (5 : Nat).toFloat := rfl
  have four : (4 : Nat).toFloat / (5 : Nat).toFloat = 0.8 := by decide +kernel
  have three : (3 : Nat).toFloat / (5 : Nat).toFloat = 0.6 := by decide +kernel
  have two : (2 : Nat).toFloat / (5 : Nat).toFloat = 0.4 := by decide +kernel
  have one : (1 : Nat).toFloat / (5 : Nat).toFloat = 0.2 := by decide +kernel
  have le (bound : Float) : (Scalar.le bound score = true) = (score ≥ bound) := decide_eq_true_eq
  rw [ofScoreIn, ofScore, fifth, fifth, fifth, fifth, four, three, two, one]
  simp only [le]

theorem ShapeScores.similarity_in_doubles (scores : ShapeScores) :
    scores.similarityIn id = scores.similarity := by
  rw [similarity, literal_one, literal_three]
  rfl

theorem Record.semantic_in_doubles (record : Record) :
    record.semanticIn id = record.semanticSimilarity := by
  have two : (2.0 : Float) = (2 : Nat).toFloat := by decide +kernel
  rw [semanticSimilarity, semanticIn]
  cases record.computedScores with
  | none => rfl
  | some scores =>
      dsimp only
      rw [DelegateScores.mean, two, literal_three]
      rfl

/-- In doubles, where scores are read as they are, these are the consistencies that the program
computes. -/
theorem consistency_in_doubles (records : List Record) :
    ConsistencyScores.ofRecords records =
      ⟨consistencyIn id records .overall, consistencyIn id records .structural,
        consistencyIn id records .semantic, averageIn id records⟩ := by
  have overall : (Aspect.overall.values id records : List Float) =
      (records.filter Record.wasCompared).map Record.composite :=
    congrFun List.filterMap_eq_map _
  have structural : (Aspect.structural.values id records : List Float) =
      (records.filter Record.wasCompared).filterMap Record.structuralSimilarity :=
    List.filterMap_congr fun record _ => by
      rw [Aspect.value?, Record.structuralSimilarity]
      exact congrArg (Option.map · record.structural) (funext ShapeScores.similarity_in_doubles)
  have semantic : (Aspect.semantic.values id records : List Float) =
      (records.filter Record.wasCompared).map Record.semanticSimilarity := by
    rw [← List.filterMap_eq_map]
    exact List.filterMap_congr fun record _ => congrArg some record.semantic_in_doubles
  rw [ConsistencyScores.ofRecords, averageIn, consistencyIn, consistencyIn, consistencyIn,
    overall, structural, semantic, literal_three]
  rfl

end Doubles

section Records

variable {record : Record} {records : List Record}

theorem DelegateScores.mean_in_unit {scores : DelegateScores}
    (own : ∀ entry ∈ scores.named, InUnit entry.2) :
    scores.meanIn exactValue ∈ Set.Icc (0 : ℝ) 1 := by
  simp only [named, List.forall_mem_cons] at own
  obtain ⟨⟨low, high⟩, ⟨low', high'⟩, ⟨low'', high''⟩⟩ :=
    And.intro own.1.exact_value (And.intro own.2.1.exact_value own.2.2.1.exact_value)
  have three : (Scalar.ofNat 3 : ℝ) = 3 := Nat.cast_ofNat
  rw [Set.mem_Icc, meanIn, three]
  constructor <;> linarith

theorem Record.semantic_in_unit (identifiers : InUnit record.vocabulary.identifiers)
    (answered : ∀ scores, record.computedScores = some scores →
      ∀ entry ∈ scores.named, InUnit entry.2) :
    record.semanticIn exactValue ∈ Set.Icc (0 : ℝ) 1 := by
  obtain ⟨low, high⟩ := identifiers.exact_value
  have two : (Scalar.ofNat 2 : ℝ) = 2 := Nat.cast_ofNat
  unfold semanticIn
  split
  next scores found =>
    obtain ⟨low', high'⟩ := DelegateScores.mean_in_unit (answered scores found)
    rw [Set.mem_Icc, two]
    constructor <;> linarith
  next => exact ⟨low, high⟩

theorem ShapeScores.similarity_in_unit {scores : ShapeScores}
    (own : ∀ score ∈ scores.values, InUnit score) :
    scores.similarityIn exactValue ∈ Set.Icc (0 : ℝ) 1 := by
  simp only [values, List.forall_mem_append, List.forall_mem_cons] at own
  obtain ⟨⟨⟨nodes, depth, histogram, -⟩, -⟩, -⟩ := own
  obtain ⟨⟨low, high⟩, ⟨low', high'⟩, ⟨low'', high''⟩⟩ :=
    And.intro nodes.exact_value (And.intro depth.exact_value histogram.exact_value)
  have one : (Scalar.one : ℝ) = 1 := Nat.cast_one
  have three : (Scalar.ofNat 3 : ℝ) = 3 := Nat.cast_ofNat
  rw [similarityIn, one, three, clamp_real]
  · constructor <;> linarith
  · linarith
  · linarith

theorem Aspect.value_in_unit {aspect : Aspect} {value : ℝ}
    (own : ∀ score ∈ record.scores, InUnit score)
    (found : aspect.value? exactValue record = some value) : value ∈ Set.Icc (0 : ℝ) 1 := by
  simp only [Record.scores, Record.textScores, Record.countScores, VocabularyScores.values,
    List.cons_append, List.forall_mem_append, List.forall_mem_cons] at own
  obtain ⟨composite, -, -, -, identifiers, -, -, ⟨-, structural⟩, delegate⟩ := own
  cases aspect with
  | overall => exact Option.some.inj found ▸ composite.exact_value
  | structural =>
      obtain ⟨scores, present, rfl⟩ := Option.map_eq_some_iff.1 found
      rw [present] at structural
      exact ShapeScores.similarity_in_unit structural
  | semantic =>
      refine Option.some.inj found ▸ Record.semantic_in_unit identifiers fun scores computed => ?_
      rw [Record.computedScores, Option.ite_none_right_eq_some] at computed
      rw [computed.2] at delegate
      exact List.forall_mem_map.1 delegate

theorem consistency_of_aspect (scored : ∀ record ∈ records, ∀ score ∈ record.scores, InUnit score)
    (aspect : Aspect) :
    MeasuresConsistency (aspect.values exactValue records)
      (consistencyIn exactValue records aspect) := by
  apply consistency_measures
  intro value member
  obtain ⟨record, compared, found⟩ := List.mem_filterMap.1 member
  exact Aspect.value_in_unit (scored record (List.mem_filter.1 compared).1) found

end Records

section Insertion

variable {records : List Record} {record : Record}

/-- The records with others put in one after the other, each at a place of its own. -/
def insertRecords (records : List Record) (insertions : List (Nat × Record)) : List Record :=
  insertions.foldl (fun records insertion => records.insertIdx insertion.1 insertion.2) records

theorem compared_of_insert (never : record.wasCompared = false) (place : Nat)
    (records : List Record) :
    (records.insertIdx place record).filter Record.wasCompared =
      records.filter Record.wasCompared := by
  induction place generalizing records with
  | zero => rw [List.insertIdx_zero, List.filter_cons_of_neg (Bool.eq_false_iff.1 never)]
  | succ place induction =>
      cases records with
      | nil => rfl
      | cons first rest =>
          rw [List.insertIdx_succ_cons, List.filter_cons, List.filter_cons, induction]

theorem compared_of_insertions {insertions : List (Nat × Record)}
    (never : ∀ insertion ∈ insertions, insertion.2.wasCompared = false) (records : List Record) :
    (insertRecords records insertions).filter Record.wasCompared =
      records.filter Record.wasCompared := by
  induction insertions generalizing records with
  | nil => rfl
  | cons insertion rest induction =>
      obtain ⟨own, never⟩ := List.forall_mem_cons.1 never
      exact (induction never _).trans (compared_of_insert own insertion.1 records)

/-- Records that are as consistent as others, in the given numbers. -/
structure AsConsistent {α : Type} [Scalar α] (read : Float → α)
    (records records' : List Record) : Prop where
  consistency : ∀ aspect, consistencyIn read records aspect = consistencyIn read records' aspect
  average : averageIn read records = averageIn read records'
  grade : Grade.ofScoreIn (averageIn read records) = Grade.ofScoreIn (averageIn read records')

theorem as_consistent_of_compared {α : Type} [Scalar α] (read : Float → α) {records' : List Record}
    (same : records.filter Record.wasCompared = records'.filter Record.wasCompared) :
    AsConsistent read records records' := by
  have consistency (aspect : Aspect) : consistencyIn read records aspect =
      consistencyIn read records' aspect := by
    rw [consistencyIn, Aspect.values, same]
    rfl
  have average : averageIn read records = averageIn read records' := by
    rw [averageIn, consistency, consistency, consistency]
    rfl
  exact ⟨consistency, average, congrArg Grade.ofScoreIn average⟩

end Insertion

theorem average_in_unit {records : List Record}
    (unit : ∀ aspect, consistencyIn exactValue records aspect ∈ Set.Icc (0 : ℝ) 1) :
    averageIn exactValue records ∈ Set.Icc (0 : ℝ) 1 := by
  obtain ⟨⟨low, high⟩, ⟨low', high'⟩, ⟨low'', high''⟩⟩ :=
    And.intro (unit .overall) (And.intro (unit .structural) (unit .semantic))
  have three : (Scalar.ofNat 3 : ℝ) = 3 := Nat.cast_ofNat
  rw [Set.mem_Icc, averageIn, three]
  constructor <;> linarith

/-- In exact arithmetic, the consistencies of records with scores in the unit interval and their
average lie in it. Each consistency is zero without values and else at most their mean, and the mean
only if that is zero or the values are all equal. Records that were never compared change neither
these nor the grade, wherever they are put in. The same computation in doubles is that of the
program. -/
theorem consistency_at_most_mean (records : List Record)
    (scored : ∀ record ∈ records, ∀ score ∈ record.scores, InUnit score) :
    (∀ aspect, MeasuresConsistency (aspect.values exactValue records)
      (consistencyIn exactValue records aspect)) ∧
      averageIn exactValue records ∈ Set.Icc (0 : ℝ) 1 ∧
      (∀ insertions : List (Nat × Record),
        (∀ insertion ∈ insertions, insertion.2.wasCompared = false) →
        AsConsistent exactValue (insertRecords records insertions) records ∧
          ConsistencyScores.ofRecords (insertRecords records insertions) =
            ConsistencyScores.ofRecords records) ∧
      ConsistencyScores.ofRecords records =
          ⟨consistencyIn id records .overall, consistencyIn id records .structural,
            consistencyIn id records .semantic, averageIn id records⟩ ∧
        (ConsistencyScores.ofRecords records).grade = Grade.ofScoreIn (averageIn id records) := by
  have measures := consistency_of_aspect scored
  refine ⟨measures, average_in_unit fun aspect => (measures aspect).unit,
    fun insertions never => ?_, consistency_in_doubles records, ?_⟩
  · have same := compared_of_insertions never records
    exact ⟨as_consistent_of_compared exactValue same, consistency_congr same⟩
  · rw [consistency_in_doubles, Grade.of_score_in_doubles]
    rfl

section Instances

def comparedRecord (composite : Float) : Record :=
  { Record.ofFailure ⟨1735689600, 0⟩ (.internal "") with
    composite, validity := some ⟨.valid, .valid⟩, error := none }

/-- Two scores that differ take from their mean, and a failure between them does not. -/
theorem spread_takes_from_mean :
    let records := [comparedRecord 1.0, comparedRecord 0.0]
    let failed := insertRecords records [(1, Record.ofFailure ⟨1735689600, 0⟩ (.internal ""))]
    (∀ record ∈ records, ∀ score ∈ record.scores, InUnit score) ∧
      consistencyIn exactValue failed .overall < 1 / 2 ∧ failed.length = 3 := by
  intro records failed
  have scored : ∀ record ∈ records, ∀ score ∈ record.scores, InUnit score := by
    simp [records, comparedRecord, Record.scores, Record.textScores, Record.countScores,
      Record.ofFailure, VocabularyScores.values, in_unit_iff, zero_within, one_within]
  have one : exactValue 1.0 = 1 := worth_literal_one.exact_value
  have zero : exactValue 0.0 = 0 := (literal_zero ▸ worth_zero).exact_value
  have values : Aspect.overall.values exactValue records = [1, 0] := by
    rw [← one, ← zero]
    rfl
  obtain ⟨measures, -, inserted, -⟩ := consistency_at_most_mean records scored
  obtain ⟨same, -⟩ := inserted [(1, Record.ofFailure ⟨1735689600, 0⟩ (.internal ""))]
    (List.forall_mem_singleton.2 rfl)
  have overall := measures .overall
  rw [values] at overall
  have mean : ([1, 0] : List ℝ).sum / ([1, 0] : List ℝ).length = 1 / 2 := by norm_num
  have most := overall.most (List.cons_ne_nil 1 [0])
  have apart := mt (overall.full (List.cons_ne_nil 1 [0])).1 (by norm_num)
  rw [mean] at most apart
  rw [same.consistency]
  exact ⟨scored, lt_of_le_of_ne most apart, rfl⟩

end Instances

end Resemblance
