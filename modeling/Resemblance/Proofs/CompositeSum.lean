import Mathlib
import Resemblance.Proofs.CompositeRange

/-!
When a composite score is a number. No weighted sum of scores exceeds the total of the weights, also
after rounding, so that it is infinite only where the total is; and then the mean of both is not a
number, which no clamp mends. In all other cases the composite is in the unit interval.
-/

namespace Resemblance

open Float.Model (Format UnpackedFloat)
open Float.Model.UnpackedFloat

section Finite

variable {x : Float} {number : ℝ} {sign : Sign}

theorem unpack_exponent_le {bits : BitVec 64} {mantissa : Nat} {exponent : Int}
    {positive : 0 < mantissa}
    (found : unpack Format.binary64 bits = .finite sign mantissa exponent positive) :
    exponent ≤ 971 := by
  have bounds := @exponent_field_bounds bits
  have bias : Format.binary64.exponentBias = 1023 := rfl
  have width : Format.binary64.mantissaBitsWithoutImplicit = 52 := rfl
  unfold unpack at found
  dsimp only at found
  split at found
  next full =>
    split at found
    · cases found
    · cases found
  next partly =>
    have inside := bounds partly
    split at found
    next lowest =>
      split at found
      · cases found
      · have none : (@unpackExponent Format.binary64 bits).toNat = 0 := congrArg BitVec.toNat lowest
        injection found with _ _ exponents
        omega
    next higher =>
      injection found with _ _ exponents
      omega

theorem Worth.not_excessive (worth : Worth sign x number) : ¬ Excessive number := by
  have bounded := @unpack_exponent_le sign x.toBits.toBitVec
  unfold Worth at worth
  generalize found : x.toModel.unpack = unpacked at worth
  cases worth with
  | zero own => exact not_le.2 (by positivity)
  | finite mantissa exponent positive canonical =>
      have low := bounded found
      rw [canonical.excessive_iff]
      omega

end Finite

/-- A number that is not negative, and one that is not less and may be infinite. -/
def Covered (x y : Float) : Prop :=
  Sided .positive x ∧ (y.toModel.unpack = .infinity .positive ∨
    ∃ number number', number ≤ number' ∧ Worth .positive x number ∧ Worth .positive y number')

section Covered

variable {x y z t : Float} {number : ℝ}

theorem Covered.weighted (worth : Worth .positive x number) (within : Within 1 y) :
    Covered (x * y) x := by
  obtain ⟨score, least, worth'⟩ := within
  obtain ⟨rounded, nearest, computed⟩ := worth.mul worth'
  have bound : number * score ≤ number := mul_le_of_le_one_right worth.nonneg least
  have low := nearest.le_of_le worth.representable bound
  rcases computed with ⟨-, product⟩ | ⟨great, -⟩
  · exact ⟨product.sided, .inr ⟨rounded, number, low, product, worth⟩⟩
  · exact absurd (le_trans great low) worth.not_excessive

theorem Covered.add (covered : Covered x y) (covered' : Covered z t) : Covered (x + z) (y + t) := by
  refine ⟨covered.1.add covered'.1, ?_⟩
  rcases covered.2 with great | ⟨a, b, ordered, worth, greater⟩
  · left
    rcases covered'.2 with great' | ⟨c, d, -, -, greater'⟩
    · exact Sided.add_infinity great (.inr great')
    · exact Sided.add_infinity great greater'.sided
  · rcases covered'.2 with great' | ⟨c, d, ordered', worth', greater'⟩
    · exact .inl (greater.add_infinity great')
    · by_cases finite : (y + t).isFinite = true
      · exact .inr (worth.add_of_le greater ordered worth' greater' ordered' finite)
      · left
        rcases (greater.add greater').sided with ⟨sum, added⟩ | great
        · exact absurd added.finite finite
        · exact great

theorem infinite_not_finite {sign : Sign} (great : x.toModel.unpack = .infinity sign) :
    x.isFinite = false := by
  show x.toModel.unpack.isFinite = false
  rw [great]
  rfl

theorem Worth.div_infinity {sign : Sign} (worth : Worth sign x number)
    (great : y.toModel.unpack = .infinity .positive) : Worth sign (x / y) 0 := by
  unfold Worth at *
  rw [to_model_div, great]
  generalize x.toModel.unpack = unpacked at worth ⊢
  cases worth with
  | zero own =>
      have zero : UnpackedFloat.div Format.binary64 (.zero own) (.infinity .positive) =
          .zero (own / .positive) := rfl
      rw [zero, unpack_pack_zero]
      exact .zero _
  | finite mantissa exponent positive canonical =>
      have zero : UnpackedFloat.div Format.binary64 (.finite sign mantissa exponent positive)
          (.infinity .positive) = .zero (sign / .positive) := rfl
      rw [zero, unpack_pack_zero]
      exact .zero _

theorem infinity_div_infinity (great : x.toModel.unpack = .infinity .positive)
    (great' : y.toModel.unpack = .infinity .positive) : (x / y).toModel.unpack = .notANumber := by
  rw [to_model_div, great, great']
  rfl

theorem not_a_number_iff : x.isNaN = true ↔ x.toModel.unpack = .notANumber := by
  show x.toModel.unpack.isNaN = true ↔ _
  generalize x.toModel.unpack = unpacked
  cases unpacked with
  | notANumber => exact ⟨fun _ => rfl, fun _ => rfl⟩
  | infinity sign => exact ⟨nofun, nofun⟩
  | zero sign => exact ⟨nofun, nofun⟩
  | finite sign mantissa exponent positive => exact ⟨nofun, nofun⟩

theorem InUnit.is_number (unit : InUnit x) : ¬ x.isNaN = true :=
  fun none => (le_numbers unit.1).2 (not_a_number_iff.1 none)

/-- What is not a number passes every clamp. -/
theorem clamp_undefined (none : x.toModel.unpack = .notANumber) (low high : Float) :
    Scalar.clamp low high x = x := by
  have above : ¬ x < low := fun less => (lt_numbers less).1 none
  have below : ¬ high < x := fun more => (lt_numbers more).2 none
  show (if decide (x < low) then low else if decide (high < x) then high else x) = x
  rw [if_neg (by simpa using above), if_neg (by simpa using below)]

theorem clamp_not_a_number (none : x.toModel.unpack = .notANumber) : clampUnit x = x :=
  clamp_undefined none _ _

end Covered

namespace WeightedSum

variable {total : WeightedSum Float} {weight : Float} {part : Option Float} {number : ℝ}

theorem add_covered (covered : Covered total.sum total.weight)
    (worth : Worth .positive weight number)
    (within : ∀ score, part = some score → Within 1 score) :
    Covered (total.add weight part).sum (total.add weight part).weight := by
  cases part with
  | none => exact covered
  | some score => exact covered.add (.weighted worth (within score rfl))

/-- The mean is in the unit interval where the sum is finite, and no number else. -/
theorem mean_cases (covered : Covered total.sum total.weight) :
    total.sum.isFinite = true ∧ Within 1 total.mean ∨
      total.sum.isFinite = false ∧ total.weight.isFinite = false ∧ total.mean.isNaN = true := by
  rcases covered.2 with great | ⟨sum, number, -, worth, worth'⟩
  · have positive : Scalar.le total.weight Scalar.zero = false := by
      have valued : Valued total.weight ⊤ := by
        unfold Valued
        rw [great]
        exact .top
      refine decide_eq_false fun less => ?_
      exact (EReal.coe_lt_top 0).not_ge ((valued.le_iff worth_zero.valued).1 less)
    rw [mean, positive, if_neg Bool.false_ne_true]
    rcases covered.1 with ⟨sum, worth⟩ | great'
    · exact .inl ⟨worth.finite, within_unit_of_clamp (worth.div_infinity great).sided⟩
    · have none := infinity_div_infinity great' great
      refine .inr ⟨infinite_not_finite great', infinite_not_finite great, ?_⟩
      rw [clamp_not_a_number none]
      exact not_a_number_iff.2 none
  · exact .inl ⟨worth.finite, mean_within covered.1 worth'⟩

end WeightedSum

/-- The scores of the parts that are present, times their weights, with the total of these
weights. -/
def Weights.gather (weights : Weights Float) (bleu : Float) (structural delegate : Option Float) :
    WeightedSum Float :=
  ((⟨weights.bleu * bleu, weights.bleu⟩ : WeightedSum Float).add weights.structural structural).add
    weights.delegate delegate

theorem Weights.gather_covered {weights : Weights Float} {bleu : Float}
    {structural delegate : Option Float}
    (valid : Config.checkWeights weights = .ok ()) (within : Within 1 bleu)
    (within' : ∀ score, structural = some score → Within 1 score)
    (within'' : ∀ score, delegate = some score → Within 1 score) :
    Covered (weights.gather bleu structural delegate).sum
      (weights.gather bleu structural delegate).weight := by
  obtain ⟨⟨_, worth⟩, ⟨_, worth'⟩, ⟨_, worth''⟩⟩ := Config.worth_of_weights valid
  have first : Covered (weights.bleu * bleu) weights.bleu := .weighted worth within
  exact WeightedSum.add_covered (WeightedSum.add_covered first worth' within') worth'' within''

/-- With weights that pass their check and scores from zero to one the composite is a number from
zero to one exactly where the weighted sum of the parts that are present is finite. Else it is not a
number; and this takes weights whose total is infinite. -/
theorem composite_number_iff_sum_finite (weights : Weights Float) (bleu : Float)
    (structural delegate : Option Float) (valid : Config.checkWeights weights = .ok ())
    (inside : InUnit bleu) (inside' : ∀ score, structural = some score → InUnit score)
    (inside'' : ∀ score, delegate = some score → InUnit score) :
    (InUnit (compositeScore weights bleu structural delegate) ↔
        (weights.gather bleu structural delegate).sum.isFinite = true) ∧
      ((compositeScore weights bleu structural delegate).isNaN = true ↔
        (weights.gather bleu structural delegate).sum.isFinite = false) ∧
      ((weights.gather bleu structural delegate).weight.isFinite = true →
        InUnit (compositeScore weights bleu structural delegate)) := by
  have covered := weights.gather_covered valid (in_unit_iff.1 inside)
    (fun score found => in_unit_iff.1 (inside' score found))
    fun score found => in_unit_iff.1 (inside'' score found)
  have same : compositeScore weights bleu structural delegate =
      (weights.gather bleu structural delegate).mean := rfl
  rw [same]
  generalize weights.gather bleu structural delegate = total at covered
  rcases WeightedSum.mean_cases covered with ⟨finite, within⟩ | ⟨infinite, infinite', none⟩
  · have unit := in_unit_iff.2 within
    refine ⟨⟨fun _ => finite, fun _ => unit⟩, ⟨fun none => ?_, fun infinite => ?_⟩, fun _ => unit⟩
    · exact absurd none unit.is_number
    · exact absurd finite (infinite ▸ Bool.false_ne_true)
  · refine ⟨⟨fun unit => ?_, fun finite => ?_⟩, ⟨fun _ => infinite, fun _ => none⟩,
      fun finite => ?_⟩
    · exact absurd none unit.is_number
    · exact absurd finite (infinite ▸ Bool.false_ne_true)
    · exact absurd finite (infinite' ▸ Bool.false_ne_true)

/-- Two weights whose total is infinite, and scores of which only one counts. -/
theorem heavy_weights_with_one_score :
    ((⟨1e308, 1e308, 0.4⟩ : Weights Float).gather 1.0 (some 0.0) none).weight.isFinite = false ∧
      InUnit (compositeScore ⟨1e308, 1e308, 0.4⟩ 1.0 (some 0.0) none) := by
  obtain ⟨range, -, -⟩ := composite_number_iff_sum_finite ⟨1e308, 1e308, 0.4⟩ 1.0 (some 0.0) none
    (by decide +kernel) (in_unit_iff.2 one_within)
    (fun score found => Option.some.inj found ▸ in_unit_iff.2 zero_within)
    (fun score found => absurd found nofun)
  exact ⟨by decide +kernel, range.2 (by decide +kernel)⟩

/-- With the same weights, two scores of one do not have a number for their mean. -/
theorem heavy_weights_without_composite :
    ¬ ∀ (weights : Weights Float) (bleu : Float) (structural delegate : Option Float),
      Config.checkWeights weights = .ok () → InUnit bleu →
        (∀ score, structural = some score → InUnit score) →
          (∀ score, delegate = some score → InUnit score) →
            InUnit (compositeScore weights bleu structural delegate) := by
  intro all
  have one := in_unit_iff.2 one_within
  have unit := all ⟨1e308, 1e308, 0.4⟩ 1.0 (some 1.0) none (by decide +kernel) one
    (fun score found => Option.some.inj found ▸ one) (fun score found => absurd found nofun)
  have none : (compositeScore ⟨1e308, 1e308, 0.4⟩ 1.0 (some 1.0) none : Float).isNaN = true := by
    decide +kernel
  exact unit.is_number none

end Resemblance
