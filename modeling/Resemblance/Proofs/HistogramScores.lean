import Mathlib
import Resemblance.Proofs.ExactNumbers
import Resemblance.Proofs.RelativeDistance
import Resemblance.Proofs.UnitInterval

/-!
The scores of two histograms, computed in any numbers: a ratio of counts held within zero and one,
and the cosine of the angle. On doubles these are the scores that the program computes; on exact
numbers the ratio is the one of the counts themselves.
-/

namespace Resemblance

theorem clamp_real {x : ℝ} (low : 0 ≤ x) (high : x ≤ 1) : clampUnit x = x := by
  have zero : (Scalar.zero : ℝ) = 0 := Nat.cast_zero
  have one : (Scalar.one : ℝ) = 1 := Nat.cast_one
  have least : Scalar.lt x Scalar.zero = false := decide_eq_false (by rw [zero]; exact low.not_gt)
  have most : Scalar.lt Scalar.one x = false := decide_eq_false (by rw [one]; exact high.not_gt)
  rw [clampUnit, Scalar.clamp, least, most]
  rfl

section Scores

variable (α : Type) [Scalar α]

/-- The ratio of two counts in the given numbers, held within zero and one. -/
def Ratio.scoreIn (ratio : Ratio) : α :=
  clampUnit
    (if ratio.whole = 0 then Scalar.zero else Scalar.ofNat ratio.part / Scalar.ofNat ratio.whole)

def deltaIn (a b : Nat) : α :=
  (deltaRatio a b).scoreIn α

def Histogram.distanceIn (a b : Histogram) : α :=
  (distanceRatio a b).scoreIn α

end Scores

theorem Ratio.score_in_doubles (ratio : Ratio) : ratio.scoreIn Float = clampUnit ratio.toFloat := by
  rw [toFloat, literal_zero]
  rfl

theorem delta_in_doubles (a b : Nat) : deltaIn Float a b = delta a b :=
  (deltaRatio a b).score_in_doubles

theorem Histogram.distance_in_doubles (a b : Histogram) : distanceIn Float a b = distance a b :=
  (distanceRatio a b).score_in_doubles

theorem Ratio.score_in_reals {ratio : Ratio} (bounded : ratio.part ≤ ratio.whole) :
    ratio.scoreIn ℝ = (ratio.value : ℝ) := by
  have quotient : (if ratio.whole = 0 then Scalar.zero
      else Scalar.ofNat ratio.part / Scalar.ofNat ratio.whole : ℝ) = (ratio.value : ℝ) := by
    rw [value, Rat.cast_div, Rat.cast_natCast, Rat.cast_natCast]
    split
    next nothing =>
      rw [nothing, Nat.cast_zero, div_zero]
      exact Nat.cast_zero
    next some => rfl
  rw [scoreIn, quotient]
  exact clamp_real (Rat.cast_nonneg.2 ratio.value_nonneg) (by exact_mod_cast value_le_one bounded)

section Angle

variable {α : Type} [Scalar α]

def Scalar.isZero (x : α) : Bool :=
  le x zero && le zero x

namespace Histogram

def normIn (nothing : α) (histogram : Histogram) : α :=
  Scalar.sqrt
    ((histogram.values.map fun n => Scalar.ofNat n * Scalar.ofNat n).foldl (· + ·) nothing)

/-- The cosine of the angle between two histograms, with the sum of no numbers given: zero, which is
negative for doubles. -/
def cosineIn (nothing : α) (a b : Histogram) : α :=
  if a.counts.isEmpty && b.counts.isEmpty then Scalar.one
  else
    let dot := ((common a b).map fun pair => Scalar.ofNat pair.1 * Scalar.ofNat pair.2).foldl
      (· + ·) nothing
    if Scalar.isZero (a.normIn nothing) || Scalar.isZero (b.normIn nothing) then Scalar.zero
    else clampUnit (dot / (a.normIn nothing * b.normIn nothing))

end Histogram

theorem is_zero_of_double (x : Float) : Scalar.isZero x = (x == 0.0) := by
  have zero : Valued (0 : Nat).toFloat ((0 : ℝ) : EReal) := worth_zero.valued
  rw [Bool.eq_iff_iff, literal_zero]
  show (decide (x ≤ (0 : Nat).toFloat) && decide ((0 : Nat).toFloat ≤ x)) = true ↔ _
  rw [Bool.and_eq_true, decide_eq_true_eq, decide_eq_true_eq]
  by_cases number : x.toModel.unpack = .notANumber
  · refine iff_of_false (fun less => (le_numbers less.1).1 number) fun same => ?_
    have bits : (x.toModel.unpack.compare (0 : Nat).toFloat.toModel.unpack == some .eq) =
        true := same
    rw [number] at bits
    cases bits
  · obtain ⟨value, valued⟩ := number_valued number
    rw [valued.le_iff zero, zero.le_iff valued, valued.beq_iff zero]
    exact le_antisymm_iff.symm

theorem Histogram.cosine_in_doubles (a b : Histogram) :
    cosineIn (-0.0 : Float) a b = cosine a b := by
  have zero : (Scalar.zero : Float) = 0.0 := literal_zero.symm
  have one : (Scalar.one : Float) = 1.0 := literal_one.symm
  have norm (histogram : Histogram) : histogram.normIn (-0.0) = histogram.norm := rfl
  rw [cosineIn, cosine, is_zero_of_double, is_zero_of_double, norm, norm, zero, one]
  rfl

end Angle

end Resemblance
