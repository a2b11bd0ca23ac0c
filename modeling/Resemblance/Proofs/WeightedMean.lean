import Mathlib
import Resemblance.Proofs.CompositeRange
import Resemblance.Proofs.HistogramScores

/-!
The composite score in exact numbers. It is the weighted mean of the parts that are present, for
which the bounds of the unit interval change nothing. Its laws are those of weighted sums: a sum is
held between its least and greatest score times the total weight, grows with each score, and keeps
its ratio to the total when all weights are scaled.
-/

namespace Resemblance

section Parts

/-- The sum of the scores of some parts, each times its weight. Parts are pairs of a weight and a
score. -/
def weightedSum (parts : List (ℝ × ℝ)) : ℝ :=
  (parts.map fun part => part.1 * part.2).sum

def totalWeight (parts : List (ℝ × ℝ)) : ℝ :=
  (parts.map Prod.fst).sum

noncomputable def weightedMean (parts : List (ℝ × ℝ)) : ℝ :=
  weightedSum parts / totalWeight parts

variable {parts parts' : List (ℝ × ℝ)} {low high : ℝ}

theorem weighted_sum_cons (part : ℝ × ℝ) (parts : List (ℝ × ℝ)) :
    weightedSum (part :: parts) = part.1 * part.2 + weightedSum parts := by
  rw [weightedSum, List.map_cons, List.sum_cons, weightedSum]

theorem total_weight_cons (part : ℝ × ℝ) (parts : List (ℝ × ℝ)) :
    totalWeight (part :: parts) = part.1 + totalWeight parts := by
  rw [totalWeight, List.map_cons, List.sum_cons, totalWeight]

def countingScores (parts : List (ℝ × ℝ)) : Set ℝ :=
  {score | ∃ weight > 0, (weight, score) ∈ parts}

def Weighty (parts : List (ℝ × ℝ)) : Prop :=
  ∀ part ∈ parts, 0 ≤ part.1

theorem Weighty.total_nonneg (weighty : Weighty parts) : 0 ≤ totalWeight parts := by
  apply List.sum_nonneg
  intro weight member
  obtain ⟨part, listed, rfl⟩ := List.mem_map.1 member
  exact weighty part listed

theorem Weighty.total_pos_iff (weighty : Weighty parts) : 0 < totalWeight parts ↔
    ∃ part ∈ parts, 0 < part.1 := by
  constructor
  · intro positive
    by_contra none
    push Not at none
    have nothing : totalWeight parts = 0 := by
      apply List.sum_eq_zero
      intro weight member
      obtain ⟨part, listed, rfl⟩ := List.mem_map.1 member
      exact le_antisymm (none part listed) (weighty part listed)
    exact positive.ne' nothing
  · rintro ⟨part, listed, positive⟩
    refine positive.trans_le
      (List.single_le_sum (fun weight member => ?_) part.1 (List.mem_map_of_mem listed))
    obtain ⟨other, listed', rfl⟩ := List.mem_map.1 member
    exact weighty other listed'

theorem Weighty.sum_between (weighty : Weighty parts)
    (within : ∀ part ∈ parts, 0 < part.1 → low ≤ part.2 ∧ part.2 ≤ high) :
    low * totalWeight parts ≤ weightedSum parts ∧ weightedSum parts ≤ high * totalWeight parts := by
  induction parts with
  | nil => simp [weightedSum, totalWeight]
  | cons part parts induction =>
      obtain ⟨below, above⟩ := induction (fun other listed => weighty other (.tail _ listed))
        fun other listed => within other (.tail _ listed)
      have own : low * part.1 ≤ part.1 * part.2 ∧ part.1 * part.2 ≤ high * part.1 := by
        rcases (weighty part List.mem_cons_self).eq_or_lt with nothing | positive
        · rw [← nothing, mul_zero, mul_zero, zero_mul]
          exact ⟨le_rfl, le_rfl⟩
        · obtain ⟨least, most⟩ := within part List.mem_cons_self positive
          rw [mul_comm low, mul_comm high]
          exact ⟨mul_le_mul_of_nonneg_left least positive.le,
            mul_le_mul_of_nonneg_left most positive.le⟩
      rw [weighted_sum_cons, total_weight_cons, mul_add, mul_add]
      exact ⟨add_le_add own.1 below, add_le_add own.2 above⟩

theorem Weighty.mean_between (weighty : Weighty parts) (some : ∃ part ∈ parts, 0 < part.1)
    (within : ∀ part ∈ parts, 0 < part.1 → low ≤ part.2 ∧ part.2 ≤ high) :
    low ≤ weightedMean parts ∧ weightedMean parts ≤ high := by
  have positive := weighty.total_pos_iff.2 some
  obtain ⟨below, above⟩ := weighty.sum_between within
  exact ⟨(le_div_iff₀ positive).2 below, (div_le_iff₀ positive).2 above⟩

theorem Weighty.mean_eq_zero (weighty : Weighty parts) (none : ¬ ∃ part ∈ parts, 0 < part.1) :
    weightedMean parts = 0 := by
  have nothing : totalWeight parts = 0 :=
    le_antisymm (not_lt.1 (mt weighty.total_pos_iff.1 none)) weighty.total_nonneg
  rw [weightedMean, nothing, div_zero]

/-- Among finitely many parts with some weight, one has the least score that counts and one the
greatest. -/
theorem least_and_greatest (some : ∃ part ∈ parts, 0 < part.1) :
    ∃ least greatest : ℝ, IsLeast (countingScores parts) least ∧
    IsGreatest (countingScores parts) greatest := by
  have finite : (countingScores parts).Finite := by
    refine (List.finite_toSet (parts.map Prod.snd)).subset ?_
    rintro score ⟨weight, -, listed⟩
    exact List.mem_map.2 ⟨(weight, score), listed, rfl⟩
  obtain ⟨⟨weight, score⟩, listed, positive⟩ := some
  have nonempty : (countingScores parts).Nonempty := ⟨score, weight, positive, listed⟩
  obtain ⟨least, low, below⟩ := Set.exists_min_image _ id finite nonempty
  obtain ⟨greatest, high, above⟩ := Set.exists_max_image _ id finite nonempty
  exact ⟨least, greatest, ⟨low, fun score => below score⟩, high, fun score => above score⟩

def Raised (part part' : ℝ × ℝ) : Prop :=
  part.1 = part'.1 ∧ part.2 ≤ part'.2

theorem Weighty.mean_mono (weighty : Weighty parts) (raised : List.Forall₂ Raised parts parts') :
    weightedMean parts ≤ weightedMean parts' := by
  have sums : weightedSum parts ≤ weightedSum parts' ∧ totalWeight parts = totalWeight parts' := by
    induction raised with
    | nil => exact ⟨le_rfl, rfl⟩
    | @cons part part' parts parts' own _ induction =>
        obtain ⟨sum, total⟩ := induction fun other listed => weighty other (.tail _ listed)
        have term := mul_le_mul_of_nonneg_left own.2 (weighty part List.mem_cons_self)
        rw [weighted_sum_cons, weighted_sum_cons, total_weight_cons,
          total_weight_cons, total, own.1]
        exact ⟨add_le_add (own.1 ▸ term) sum, rfl⟩
  rw [weightedMean, weightedMean, ← sums.2]
  exact div_le_div_of_nonneg_right sums.1 weighty.total_nonneg

theorem mean_of_scaled {factor : ℝ} (positive : 0 < factor) (parts : List (ℝ × ℝ)) :
    weightedMean (parts.map fun part => (factor * part.1, part.2)) = weightedMean parts := by
  have sums : weightedSum (parts.map fun part => (factor * part.1, part.2)) =
      factor * weightedSum parts ∧
      totalWeight (parts.map fun part => (factor * part.1, part.2)) =
          factor * totalWeight parts := by
    rw [weightedSum, weightedSum, totalWeight, totalWeight, List.map_map, List.map_map,
      ← List.sum_map_mul_left, ← List.sum_map_mul_left]
    exact ⟨congrArg List.sum (List.map_congr_left fun part _ => mul_assoc _ _ _), rfl⟩
  rw [weightedMean, sums.1, sums.2, mul_div_mul_left _ _ positive.ne', weightedMean]

end Parts

namespace Weights

/-- Weights that pass their check, as exact numbers: none is negative, and not all are zero. -/
structure Accepted (weights : Weights ℝ) : Prop where
  bleu : 0 ≤ weights.bleu
  structural : 0 ≤ weights.structural
  delegate : 0 ≤ weights.delegate
  some : 0 < weights.bleu ∨ 0 < weights.structural ∨ 0 < weights.delegate

def parts {α : Type} (weights : Weights α) (bleu : α) (structural delegate : Option α) :
    List (α × α) :=
  (weights.bleu, bleu) :: ((structural.map fun score => (weights.structural, score)).toList ++
    (delegate.map fun score => (weights.delegate, score)).toList)

def scale (factor : ℝ) (weights : Weights ℝ) : Weights ℝ :=
  ⟨factor * weights.bleu, factor * weights.structural, factor * weights.delegate⟩

variable {weights : Weights ℝ} {bleu bleu' : ℝ}
  {structural structural' delegate delegate' : Option ℝ}

theorem Accepted.weighty (accepted : weights.Accepted) :
    Weighty (weights.parts bleu structural delegate) := by
  intro part member
  simp only [parts, List.mem_cons, List.mem_append, Option.mem_toList, Option.map_eq_some_iff]
    at member
  rcases member with rfl | ⟨score, -, rfl⟩ | ⟨score, -, rfl⟩
  · exact accepted.bleu
  · exact accepted.structural
  · exact accepted.delegate

theorem accepted_of_checked {doubles : Weights Float}
    (valid : Config.checkWeights doubles = .ok ()) :
    ∃ weights : Weights ℝ, weights.Accepted ∧ Worth .positive doubles.bleu weights.bleu ∧
      Worth .positive doubles.structural weights.structural ∧
        Worth .positive doubles.delegate weights.delegate := by
  obtain ⟨⟨bleu, worth⟩, ⟨structural, worth'⟩, ⟨delegate, worth''⟩⟩ := Config.worth_of_weights valid
  refine ⟨⟨bleu, structural, delegate⟩, ⟨worth.nonneg, worth'.nonneg, worth''.nonneg, ?_⟩, worth,
    worth', worth''⟩
  obtain ⟨_, -, rest⟩ := CacheDirectory.bind_ok.1 valid
  obtain ⟨_, -, rest⟩ := CacheDirectory.bind_ok.1 rest
  obtain ⟨_, -, counted⟩ := CacheDirectory.bind_ok.1 rest
  have small {x : Float} {number : ℝ} (worth : Worth .positive x number)
      (nothing : ¬ 0 < number) : x ≤ 0.0 := by
    rw [literal_zero]
    exact (worth.valued.le_iff worth_zero.valued).2 (EReal.coe_le_coe_iff.2 (not_lt.1 nothing))
  by_contra none
  rw [not_or, not_or] at none
  have zero : ([doubles.bleu, doubles.structural, doubles.delegate].all (· ≤ 0.0)) = true := by
    simp [small worth none.1, small worth' none.2.1, small worth'' none.2.2]
  rw [Config.checkNotAllZero, if_pos zero] at counted
  cases counted

/-- What the composite divides, in exact numbers, are the sums over its parts. -/
theorem composite_eq (weights : Weights ℝ) (bleu : ℝ) (structural delegate : Option ℝ) :
    compositeScore weights bleu structural delegate =
      (⟨weightedSum (weights.parts bleu structural delegate),
        totalWeight (weights.parts bleu structural delegate)⟩ : WeightedSum ℝ).mean := by
  cases structural with
  | none =>
      cases delegate with
      | none => simp [compositeScore, WeightedSum.add, parts, weightedSum, totalWeight]
      | some score => simp [compositeScore, WeightedSum.add, parts, weightedSum, totalWeight]
  | some score =>
      cases delegate with
      | none => simp [compositeScore, WeightedSum.add, parts, weightedSum, totalWeight]
      | some score' =>
          simp [compositeScore, WeightedSum.add, parts, weightedSum, totalWeight, add_assoc]

theorem composite_eq_mean (weighty : Weighty (weights.parts bleu structural delegate))
    (unit : ∀ part ∈ weights.parts bleu structural delegate, 0 < part.1 → 0 ≤ part.2 ∧ part.2 ≤ 1) :
    compositeScore weights bleu structural delegate =
      weightedMean (weights.parts bleu structural delegate) := by
  have zero : (Scalar.zero : ℝ) = 0 := Nat.cast_zero
  rw [composite_eq, WeightedSum.mean]
  by_cases some : ∃ part ∈ weights.parts bleu structural delegate, 0 < part.1
  · obtain ⟨low, high⟩ := weighty.mean_between some unit
    have counted : Scalar.le (totalWeight (weights.parts bleu structural delegate)) Scalar.zero =
        false :=
      decide_eq_false (by rw [zero]; exact (weighty.total_pos_iff.2 some).not_ge)
    rw [counted]
    exact clamp_real low high
  · have nothing : Scalar.le (totalWeight (weights.parts bleu structural delegate)) Scalar.zero =
        true :=
      decide_eq_true (by rw [zero]; exact not_lt.1 (mt weighty.total_pos_iff.1 some))
    rw [nothing, if_pos rfl, zero, weighty.mean_eq_zero some]

theorem scale_parts (factor : ℝ) (weights : Weights ℝ) (bleu : ℝ) (structural delegate : Option ℝ) :
    (weights.scale factor).parts bleu structural delegate =
      (weights.parts bleu structural delegate).map fun part => (factor * part.1, part.2) := by
  cases structural with
  | none => cases delegate with | none => rfl | some _ => rfl
  | some _ => cases delegate with | none => rfl | some _ => rfl

theorem Accepted.scale {factor : ℝ} (accepted : weights.Accepted) (positive : 0 < factor) :
    (weights.scale factor).Accepted where
  bleu := mul_nonneg positive.le accepted.bleu
  structural := mul_nonneg positive.le accepted.structural
  delegate := mul_nonneg positive.le accepted.delegate
  some := accepted.some.imp (mul_pos positive) (Or.imp (mul_pos positive) (mul_pos positive))

theorem raised_parts (weights : Weights ℝ) (own : bleu ≤ bleu')
    (own' : Option.Rel (· ≤ ·) structural structural')
    (own'' : Option.Rel (· ≤ ·) delegate delegate') :
    List.Forall₂ Raised (weights.parts bleu structural delegate)
      (weights.parts bleu' structural' delegate') := by
  refine .cons ⟨rfl, own⟩ (List.rel_append ?_ ?_)
  · cases own' with
    | none => exact .nil
    | some raised => exact .cons ⟨rfl, raised⟩ .nil
  · cases own'' with
    | none => exact .nil
    | some raised => exact .cons ⟨rfl, raised⟩ .nil

/-- A part without weight may as well be absent, whatever its score. -/
theorem composite_of_weightless (weights : Weights ℝ) (bleu score : ℝ)
    (structural delegate : Option ℝ) :
    compositeScore { weights with structural := 0 } bleu (some score) delegate =
        compositeScore weights bleu none delegate ∧
      compositeScore { weights with delegate := 0 } bleu structural (some score) =
        compositeScore weights bleu structural none := by
  simp [compositeScore, WeightedSum.add]

theorem composite_without_bleu {score : ℝ} (accepted : weights.Accepted)
    (unit : ∀ part ∈ weights.parts bleu structural delegate, 0 ≤ part.2 ∧ part.2 ≤ 1) :
    compositeScore { weights with bleu := 0 } score structural delegate =
      weightedMean (weights.parts bleu structural delegate).tail := by
  have parts_eq : ({ weights with bleu := 0 } : Weights ℝ).parts score structural delegate =
      (0, score) :: (weights.parts bleu structural delegate).tail := rfl
  have weighty : Weighty (weights.parts bleu structural delegate) := accepted.weighty
  rw [composite_eq_mean, parts_eq, weightedMean, weighted_sum_cons, total_weight_cons, zero_mul,
    zero_add, zero_add, weightedMean]
  · rw [parts_eq]
    exact List.forall_mem_cons.2
      ⟨le_rfl, fun part listed => weighty part (List.mem_of_mem_tail listed)⟩
  · rw [parts_eq]
    exact List.forall_mem_cons.2
      ⟨fun positive => absurd positive (lt_irrefl _),
       fun part listed _ => unit part (List.mem_of_mem_tail listed)⟩

end Weights

/-- The exact values of weights that pass their check are accepted. For accepted weights and scores
in the unit interval, the composite is the weighted mean of the parts that are present if one of
them has positive weight, and otherwise zero. So it lies between the least and the greatest of the
present scores that count, does not fall when a score rises, and depends on the weights by their
ratios only; a part left out is a part without weight. -/
theorem composite_is_weighted_mean :
    (∀ doubles : Weights Float, Config.checkWeights doubles = .ok () →
      ∃ weights : Weights ℝ, weights.Accepted ∧ Worth .positive doubles.bleu weights.bleu ∧
        Worth .positive doubles.structural weights.structural ∧
          Worth .positive doubles.delegate weights.delegate) ∧
    ∀ weights : Weights ℝ, weights.Accepted → ∀ (bleu : ℝ) (structural delegate : Option ℝ),
      (∀ part ∈ weights.parts bleu structural delegate, 0 ≤ part.2 ∧ part.2 ≤ 1) →
        ((∃ part ∈ weights.parts bleu structural delegate, 0 < part.1) →
          compositeScore weights bleu structural delegate =
              weightedMean (weights.parts bleu structural delegate) ∧
            ∃ least greatest : ℝ,
              IsLeast (countingScores (weights.parts bleu structural delegate)) least ∧
              IsGreatest (countingScores (weights.parts bleu structural delegate)) greatest ∧
              least ≤ compositeScore weights bleu structural delegate ∧
                compositeScore weights bleu structural delegate ≤ greatest) ∧
        ((¬ ∃ part ∈ weights.parts bleu structural delegate, 0 < part.1) →
          compositeScore weights bleu structural delegate = 0) ∧
        (∀ (bleu' : ℝ) (structural' delegate' : Option ℝ),
          (∀ part ∈ weights.parts bleu' structural' delegate', 0 ≤ part.2 ∧ part.2 ≤ 1) →
            bleu ≤ bleu' → Option.Rel (· ≤ ·) structural structural' →
            Option.Rel (· ≤ ·) delegate delegate' →
              compositeScore weights bleu structural delegate ≤
                compositeScore weights bleu' structural' delegate') ∧
        (∀ factor : ℝ, 0 < factor →
          compositeScore (weights.scale factor) bleu structural delegate =
            compositeScore weights bleu structural delegate) ∧
        ∀ score : ℝ,
          compositeScore weights bleu none delegate =
              compositeScore { weights with structural := 0 } bleu (some score) delegate ∧
            compositeScore weights bleu structural none =
              compositeScore { weights with delegate := 0 } bleu structural (some score) ∧
            compositeScore { weights with bleu := 0 } score structural delegate =
              weightedMean (weights.parts bleu structural delegate).tail := by
  refine ⟨fun doubles valid => Weights.accepted_of_checked valid,
    fun weights accepted bleu structural delegate unit => ?_⟩
  have weighty : Weighty (weights.parts bleu structural delegate) := accepted.weighty
  have mean := Weights.composite_eq_mean weighty fun part listed _ => unit part listed
  refine ⟨fun some => ⟨mean, ?_⟩, fun none => ?_, ?_, fun factor positive => ?_,
    fun score => ⟨?_, ?_, ?_⟩⟩
  · obtain ⟨least, greatest, isLeast, isGreatest⟩ := least_and_greatest some
    refine ⟨least, greatest, isLeast, isGreatest, ?_⟩
    rw [mean]
    exact weighty.mean_between some fun part listed positive =>
      ⟨isLeast.2 ⟨part.1, positive, listed⟩, isGreatest.2 ⟨part.1, positive, listed⟩⟩
  · rw [mean, weighty.mean_eq_zero none]
  · intro bleu' structural' delegate' unit' own own' own''
    rw [mean, Weights.composite_eq_mean accepted.weighty fun part listed _ => unit' part listed]
    exact weighty.mean_mono (Weights.raised_parts weights own own' own'')
  · have unit' : ∀ part ∈ (weights.scale factor).parts bleu structural delegate, 0 ≤ part.2 ∧
        part.2 ≤ 1 := by
      rw [Weights.scale_parts]
      intro scaled member
      obtain ⟨part, listed, rfl⟩ := List.mem_map.1 member
      exact unit part listed
    rw [mean, Weights.composite_eq_mean (accepted.scale positive).weighty fun part listed _ =>
      unit' part listed, Weights.scale_parts, mean_of_scaled positive]
  · exact (Weights.composite_of_weightless weights bleu score none delegate).1.symm
  · exact (Weights.composite_of_weightless weights bleu score structural none).2.symm
  · exact Weights.composite_without_bleu accepted unit

/-- Usual weights with two scores that count half each; with one of them raised; and with no weight
on the only part that is there. -/
theorem mean_without_delegate :
    let weights : Weights ℝ := ⟨2 / 5, 2 / 5, 1 / 5⟩
    Config.checkWeights ⟨0.4, 0.4, 0.2⟩ = .ok () ∧ weights.Accepted ∧
      compositeScore weights (2 / 5) (some (4 / 5)) none = 3 / 5 ∧
      compositeScore weights (2 / 5) (some (4 / 5)) none ≤
        compositeScore weights (2 / 5) (some 1) none ∧
      compositeScore ⟨0, 2 / 5, 1 / 5⟩ (9 / 10) none none = (0 : ℝ) := by
  intro weights
  have accepted : weights.Accepted :=
    ⟨by norm_num [weights], by norm_num [weights], by norm_num [weights],
      .inl (by norm_num [weights])⟩
  have accepted' : Weights.Accepted ⟨0, 2 / 5, 1 / 5⟩ :=
    ⟨le_rfl, by norm_num, by norm_num, .inr (.inl (by norm_num))⟩
  have unit : ∀ part ∈ weights.parts (2 / 5) (some (4 / 5)) none, 0 ≤ part.2 ∧ part.2 ≤ 1 := by
    norm_num [Weights.parts]
  obtain ⟨counted, -, raised, -⟩ :=
    composite_is_weighted_mean.2 weights accepted (2 / 5) (some (4 / 5)) none unit
  obtain ⟨-, nothing, -⟩ := composite_is_weighted_mean.2 ⟨0, 2 / 5, 1 / 5⟩ accepted' (9 / 10) none
    none (by norm_num [Weights.parts])
  refine ⟨by decide +kernel, accepted, ?_, ?_, nothing (by norm_num [Weights.parts])⟩
  · obtain ⟨mean, -⟩ := counted ⟨(2 / 5, 2 / 5), List.mem_cons_self, by norm_num⟩
    rw [mean]
    norm_num [weights, Weights.parts, weightedMean, weightedSum, totalWeight]
  · exact raised (2 / 5) (some 1) none (by norm_num [Weights.parts]) le_rfl
      (.some (by norm_num)) .none

end Resemblance
