import Mathlib
import Resemblance.Proofs.Quotient

/-!
Rounding as the choice of a nearest double. What the residual bits of a mantissa say of an exact
number survives every shift, so that the rounded mantissa is a nearest whole number on the grid that
is reached; and no double off that grid is nearer.
-/

namespace Resemblance

open Float.Model (Format UnpackedFloat totalExponent)
open Float.Model.UnpackedFloat

/-- A number that a positive double or zero can stand for, if exponents had no upper bound. -/
def Representable (number : ℝ) : Prop :=
  ∃ (mantissa : Nat) (exponent : Int),
    mantissa < 2 ^ 53 ∧ -1074 ≤ exponent ∧ number = mantissa * 2 ^ exponent

structure Nearest (exact rounded : ℝ) : Prop where
  representable : Representable rounded
  closest : ∀ other, Representable other → |rounded - exact| ≤ |other - exact|

def Excessive (number : ℝ) : Prop :=
  2 ^ 1024 ≤ number

theorem representable_nat {count : Nat} (small : count < 2 ^ 53) : Representable count :=
  ⟨count, 0, small, by norm_num, by rw [zpow_zero, mul_one]⟩

theorem representable_two_pow (exponent : Nat) : Representable (2 ^ exponent) :=
  ⟨1, exponent, by norm_num, by omega, by rw [Nat.cast_one, one_mul, zpow_natCast]⟩

theorem representable_one : Representable 1 :=
  ⟨1, 0, by norm_num, by norm_num, by norm_num⟩

theorem representable_zero : Representable 0 :=
  ⟨0, 0, by norm_num, by norm_num, by norm_num⟩

theorem representable_two_zpow {exponent : Int} (low : -1074 ≤ exponent) :
    Representable (2 ^ exponent) :=
  ⟨1, exponent, by norm_num, low, by rw [Nat.cast_one, one_mul]⟩

theorem Representable.least {number : ℝ} (own : Representable number) (positive : 0 < number) :
    2 ^ (-1074 : Int) ≤ number := by
  obtain ⟨mantissa, exponent, -, low, rfl⟩ := own
  have some : 1 ≤ mantissa := by
    by_contra none
    obtain rfl : mantissa = 0 := by omega
    rw [Nat.cast_zero, zero_mul] at positive
    exact lt_irrefl 0 positive
  have cast : (1 : ℝ) ≤ mantissa := by exact_mod_cast some
  calc (2 : ℝ) ^ (-1074 : Int) ≤ 2 ^ exponent := zpow_le_zpow_right₀ one_le_two low
    _ ≤ mantissa * 2 ^ exponent := le_mul_of_one_le_left (by positivity) cast

theorem Representable.nearest {number : ℝ} (own : Representable number) :
    Nearest number number where
  representable := own
  closest other _ := by
    rw [sub_self, abs_zero]
    exact abs_nonneg _

theorem Representable.gap_above {number : ℝ} {power : Nat} (own : Representable number)
    (high : 52 ≤ power) (above : 2 ^ power < number) : 2 ^ power + 2 ^ (power - 52) ≤ number := by
  obtain ⟨mantissa, exponent, short, -, rfl⟩ := own
  have unit : (0 : ℝ) < 2 ^ exponent := by positivity
  have coarse : (power : Int) - 52 ≤ exponent := by
    by_contra fine
    have most : (mantissa : ℝ) ≤ 2 ^ 53 := by exact_mod_cast short.le
    have below : (mantissa : ℝ) * 2 ^ exponent ≤ 2 ^ power :=
      calc (mantissa : ℝ) * 2 ^ exponent ≤ 2 ^ 53 * 2 ^ ((power : Int) - 53) :=
            mul_le_mul most (zpow_le_zpow_right₀ one_le_two (by omega)) unit.le (by positivity)
        _ = 2 ^ power := by
            rw [← zpow_natCast, ← zpow_natCast, ← zpow_add₀ two_ne_zero]
            congr 1
            push_cast
            ring
    exact absurd above below.not_gt
  -- In units of the gap both numbers are whole.
  obtain ⟨count, counted⟩ : ∃ count : Nat, (count : Int) = exponent - (power - 52) :=
    ⟨(exponent - (power - 52)).toNat, by omega⟩
  have split : (mantissa : ℝ) * 2 ^ exponent =
      ((mantissa * 2 ^ count : Nat) : ℝ) * 2 ^ (power - 52) := by
    rw [show exponent = (count : Int) + ((power - 52 : Nat) : Int) by omega, zpow_add₀ two_ne_zero,
      zpow_natCast, zpow_natCast]
    push_cast
    ring
  have whole : (2 : ℝ) ^ power = ((2 ^ 52 : Nat) : ℝ) * 2 ^ (power - 52) := by
    rw [Nat.cast_pow, Nat.cast_ofNat, ← pow_add]
    congr 1
    omega
  have step : (0 : ℝ) < 2 ^ (power - 52) := by positivity
  rw [split, whole] at above
  have more : 2 ^ 52 + 1 ≤ mantissa * 2 ^ count := by
    exact_mod_cast lt_of_mul_lt_mul_right above step.le
  have cast : ((2 ^ 52 : Nat) : ℝ) + 1 ≤
      ((mantissa * 2 ^ count : Nat) : ℝ) := by exact_mod_cast more
  rw [split, whole]
  linarith [mul_le_mul_of_nonneg_right cast step.le]

namespace Nearest

variable {exact rounded exact' rounded' bound : ℝ}

theorem le_of_le (nearest : Nearest exact rounded) (own : Representable bound)
    (le : exact ≤ bound) :
    rounded ≤ bound := by
  by_contra above
  rw [not_le] at above
  have closest := nearest.closest bound own
  rw [abs_of_nonneg (by linarith), abs_of_nonneg (by linarith)] at closest
  linarith

theorem ge_of_ge (nearest : Nearest exact rounded) (own : Representable bound)
    (ge : bound ≤ exact) :
    bound ≤ rounded := by
  by_contra below
  rw [not_le] at below
  have closest := nearest.closest bound own
  rw [abs_of_nonpos (by linarith), abs_of_nonpos (by linarith)] at closest
  linarith

theorem mono (nearest : Nearest exact rounded) (nearest' : Nearest exact' rounded')
    (less : exact < exact') : rounded ≤ rounded' := by
  by_contra above
  rw [not_le] at above
  have first := nearest.closest rounded' nearest'.representable
  have second := nearest'.closest rounded nearest.representable
  rw [← sq_le_sq] at first second
  nlinarith

/-- Between a power of two and the next number lies a gap, so that adding much less changes
nothing. -/
theorem absorbs {power : Nat} (nearest : Nearest exact rounded) (high : 54 ≤ power)
    (low : exact ≤ 2 ^ power + 2 ^ (power - 54)) : rounded ≤ 2 ^ power := by
  by_contra above
  rw [not_le] at above
  have gap := nearest.representable.gap_above (by omega) above
  have closest := nearest.closest (2 ^ power) (representable_two_pow power)
  have wide : (2 : ℝ) ^ (power - 52) = 4 * 2 ^ (power - 54) := by
    rw [show power - 52 = power - 54 + 2 by omega, pow_add]
    ring
  have positive : (0 : ℝ) < 2 ^ (power - 54) := by positivity
  rw [abs_of_nonneg (by linarith)] at closest
  rcases abs_cases ((2 : ℝ) ^ power - exact) with ⟨same, -⟩ | ⟨same, -⟩
  · linarith
  · linarith

end Nearest

section Residue

/-- What the residual bits of a mantissa say of the exact number. -/
def Tracks (exact : ℝ) : ExtendedMantissa → Prop
  | ⟨mantissa, false, false⟩ => exact = mantissa
  | ⟨mantissa, false, true⟩ => mantissa < exact ∧ exact < mantissa + 1 / 2
  | ⟨mantissa, true, false⟩ => exact = mantissa + 1 / 2
  | ⟨mantissa, true, true⟩ => mantissa + 1 / 2 < exact ∧ exact < mantissa + 1

variable {exact : ℝ} {extended : ExtendedMantissa}

theorem Tracks.bounds (tracks : Tracks exact extended) :
    extended.mantissa ≤ exact ∧ exact < extended.mantissa + 1 := by
  obtain ⟨mantissa, roundBit, stickyBit⟩ := extended
  cases roundBit with
  | false =>
      cases stickyBit with
      | false => exact ⟨tracks.ge, by rw [show exact = mantissa from tracks]; linarith⟩
      | true => exact ⟨tracks.1.le, by linarith [tracks.2]⟩
  | true =>
      cases stickyBit with
      | false =>
          rw [show exact = mantissa + 1 / 2 from tracks]
          constructor <;> linarith
      | true => exact ⟨by linarith [tracks.1], tracks.2⟩

/-- A bit that is shifted out becomes the round bit, and leaves its trace in the sticky bit
later. -/
theorem Tracks.shift_one (tracks : Tracks exact extended) :
    Tracks (exact / 2) extended.shiftRightOne := by
  obtain ⟨mantissa, roundBit, stickyBit⟩ := extended
  have step : ExtendedMantissa.shiftRightOne ⟨mantissa, roundBit, stickyBit⟩ =
      ⟨mantissa / 2, mantissa % 2 != 0, roundBit || stickyBit⟩ := rfl
  have halves : ((mantissa / 2 : Nat) : ℝ) * 2 + (mantissa % 2 : Nat) = mantissa := by
    exact_mod_cast Nat.div_add_mod' mantissa 2
  rw [step]
  rcases Nat.mod_two_eq_zero_or_one mantissa with even | odd
  · rw [even] at halves ⊢
    push_cast at halves
    cases roundBit <;> cases stickyBit <;>
      simp only [Tracks, bne_self_eq_false, Bool.or_false, Bool.or_true] at tracks ⊢
    · linarith
    · constructor <;> linarith
    · constructor <;> linarith
    · constructor <;> linarith
  · rw [odd] at halves ⊢
    push_cast at halves
    cases roundBit <;> cases stickyBit <;>
      simp only [Tracks, show (1 != 0) = true from rfl, Bool.or_false, Bool.or_true] at tracks ⊢
    · linarith
    · constructor <;> linarith
    · constructor <;> linarith
    · constructor <;> linarith

theorem Tracks.shift (tracks : Tracks exact extended) (count : Nat) :
    Tracks (exact / 2 ^ count) (extended >>> count) := by
  induction count with
  | zero =>
      rw [pow_zero, div_one]
      exact tracks
  | succ count ih =>
      rw [pow_succ, ← div_div]
      exact ih.shift_one

theorem Tracks.rounded (tracks : Tracks exact extended) :
    |(extended.roundedMantissa : ℝ) - exact| ≤ 1 / 2 := by
  obtain ⟨mantissa, roundBit, stickyBit⟩ := extended
  rw [abs_le]
  cases roundBit with
  | false =>
      cases stickyBit with
      | false =>
          change exact = mantissa at tracks
          change -(1 / 2) ≤ (mantissa : ℝ) - exact ∧ (mantissa : ℝ) - exact ≤ 1 / 2
          constructor <;> linarith
      | true =>
          change (mantissa : ℝ) < exact ∧ exact < mantissa + 1 / 2 at tracks
          change -(1 / 2) ≤ (mantissa : ℝ) - exact ∧ (mantissa : ℝ) - exact ≤ 1 / 2
          constructor <;> linarith
  | true =>
      cases stickyBit with
      | false =>
          change exact = mantissa + 1 / 2 at tracks
          have parity : mantissa % 2 ≤ 1 := by omega
          have cast : ((mantissa % 2 : Nat) : ℝ) ≤ 1 := by exact_mod_cast parity
          have positive : (0 : ℝ) ≤ (mantissa % 2 : Nat) := Nat.cast_nonneg _
          change -(1 / 2) ≤ ((mantissa + mantissa % 2 : Nat) : ℝ) - exact ∧
            ((mantissa + mantissa % 2 : Nat) : ℝ) - exact ≤ 1 / 2
          push_cast
          constructor <;> linarith
      | true =>
          change (mantissa : ℝ) + 1 / 2 < exact ∧ exact < mantissa + 1 at tracks
          change -(1 / 2) ≤ ((mantissa + 1 : Nat) : ℝ) - exact ∧
            ((mantissa + 1 : Nat) : ℝ) - exact ≤ 1 / 2
          push_cast
          constructor <;> linarith

/-- No other whole number is nearer than the rounded mantissa. -/
theorem Tracks.nearest_whole (tracks : Tracks exact extended) (other : Int) :
    |(extended.roundedMantissa : ℝ) - exact| ≤ |(other : ℝ) - exact| := by
  by_cases same : (extended.roundedMantissa : Int) = other
  · rw [← same, Int.cast_natCast]
  · have apart : (1 : ℝ) ≤ |(other : ℝ) - extended.roundedMantissa| := by
      have whole : (1 : Int) ≤ |other - extended.roundedMantissa| :=
        Int.one_le_abs (sub_ne_zero.2 (Ne.symm same))
      exact_mod_cast whole
    have near := tracks.rounded
    have way := abs_sub_le (other : ℝ) exact extended.roundedMantissa
    rw [abs_sub_comm exact] at way
    linarith

end Residue

/-- A mantissa and an exponent as finite doubles have them, if exponents had no upper bound. -/
structure Canonical (mantissa : Nat) (exponent : Int) : Prop where
  short : mantissa < 2 ^ 53
  low : -1074 ≤ exponent
  full : 2 ^ 52 ≤ mantissa ∨ exponent = -1074

/-- What stands for a number that is not negative, with the given sign before it unless it is
zero. -/
inductive Means (sign : Sign) : ℝ → UnpackedFloat → Prop
  | zero (own : Sign) : Means sign 0 (.zero own)
  | finite (mantissa : Nat) (exponent : Int) (positive : 0 < mantissa)
      (canonical : Canonical mantissa exponent) :
      Means sign (mantissa * 2 ^ exponent) (.finite sign mantissa exponent positive)

theorem Means.representable {sign : Sign} {number : ℝ} {unpacked : UnpackedFloat}
    (means : Means sign number unpacked) : Representable number := by
  cases means with
  | zero own => exact representable_zero
  | finite mantissa exponent positive canonical =>
      exact ⟨mantissa, exponent, canonical.short, canonical.low, rfl⟩

section Round

variable {sign : Sign} {mantissa : Nat} {exponent : Int} {accuracy : Accuracy} {number : ℝ}

theorem shift_short (short : mantissa < 2 ^ 53) (low : -1074 ≤ exponent) :
    shiftToTargetExponent Format.binary64 mantissa exponent .exact =
      (⟨mantissa, false, false⟩, exponent) := by
  have bits : mantissa.log2 ≤ 52 := by
    rcases Nat.eq_zero_or_pos mantissa with rfl | positive
    · simp
    · exact Nat.le_of_lt_succ ((Nat.log2_lt positive.ne').2 short)
  have target := target_exponent_eq mantissa exponent
  have amount :
      (Format.binary64.targetExponent (totalExponent mantissa exponent) - exponent).toNat = 0 := by
    omega
  simp only [shiftToTargetExponent, shiftToExponent, amount]
  rw [Int.natCast_zero, Int.add_zero]
  rfl

/-- What is rounded stands for its rounded mantissa on the grid that is reached, also where this
carries over to the exponent. -/
theorem round_means (sign : Sign) {extended : ExtendedMantissa} {reached : Int}
    (shift : shiftToTargetExponent Format.binary64 mantissa exponent accuracy = (extended, reached))
    (low : -1074 ≤ reached) (bounded : extended.roundedMantissa ≤ 2 ^ 53)
    (full : 2 ^ 52 ≤ extended.roundedMantissa ∨ reached = -1074) :
    Means sign (extended.roundedMantissa * 2 ^ reached)
      (roundWithAccuracy Format.binary64 sign mantissa exponent accuracy) := by
  rcases Nat.lt_or_eq_of_le bounded with short | carry
  · have second := shift_short short low
    unfold roundWithAccuracy
    simp only [shift, second]
    split
    next zero =>
      rw [zero, Nat.cast_zero, zero_mul]
      exact .zero sign
    next => exact .finite _ _ _ ⟨short, low, full⟩
  · have same : ((2 ^ 53 : Nat) : ℝ) * 2 ^ reached = (2 ^ 52 : Nat) * 2 ^ (reached + 1) := by
      rw [zpow_add_one₀ two_ne_zero]
      push_cast
      ring
    rw [round_of_carry shift low carry, carry, same]
    exact .finite _ _ _ ⟨by norm_num, by omega, .inl le_rfl⟩

/-- Where a number on a grid has all the bits that a mantissa can have, or the grid is the finest
one, a nearest point of the grid is a nearest of all doubles. -/
theorem nearest_of_grid {rounded : Nat} {reached : Int}
    (representable : Representable (rounded * 2 ^ reached))
    (closest : ∀ other : Int, |(rounded : ℝ) - number| ≤ |(other : ℝ) - number|)
    (full : 2 ^ 52 ≤ number ∨ reached = -1074) :
    Nearest (number * 2 ^ reached) (rounded * 2 ^ reached) := by
  have unit : (0 : ℝ) < 2 ^ reached := by positivity
  refine ⟨representable, ?_⟩
  rintro other ⟨otherMantissa, otherExponent, short, otherLow, rfl⟩
  -- Both distances in units of the grid.
  have scaled : ∀ place : ℝ, |place * 2 ^ reached - number * 2 ^ reached| =
      |place - number| * 2 ^ reached := by
    intro place
    rw [← sub_mul, abs_mul, abs_of_pos unit]
  have split : (otherMantissa : ℝ) * 2 ^ otherExponent =
      otherMantissa * 2 ^ (otherExponent - reached) * 2 ^ reached := by
    rw [mul_assoc, ← zpow_add₀ two_ne_zero, sub_add_cancel]
  rw [split, scaled, scaled]
  apply mul_le_mul_of_nonneg_right _ unit.le
  by_cases coarse : reached ≤ otherExponent
  · have onGrid : ((otherMantissa * 2 ^ (otherExponent - reached).toNat : Int) : ℝ) =
        otherMantissa * 2 ^ (otherExponent - reached) := by
      push_cast
      rw [← zpow_natCast, Int.toNat_of_nonneg (by omega)]
    rw [← onGrid]
    exact closest _
  · have least : (2 : ℝ) ^ 52 ≤ number := full.resolve_right (by omega)
    have below : (otherMantissa : ℝ) * 2 ^ (otherExponent - reached) ≤ 2 ^ 52 := by
      have most : (otherMantissa : ℝ) ≤ 2 ^ 53 := by exact_mod_cast short.le
      have finer : (2 : ℝ) ^ (otherExponent - reached) ≤ 2 ^ (-1 : Int) :=
        zpow_le_zpow_right₀ one_le_two (by omega)
      calc (otherMantissa : ℝ) * 2 ^ (otherExponent - reached)
          ≤ 2 ^ 53 * 2 ^ (-1 : Int) := mul_le_mul most finer (by positivity) (by positivity)
        _ = 2 ^ 52 := by norm_num
    have there := closest 4503599627370496
    rw [Int.cast_ofNat, abs_of_nonpos (by linarith : (4503599627370496 : ℝ) - number ≤ 0)] at there
    rw [abs_of_nonpos
      (by linarith : (otherMantissa : ℝ) * 2 ^ (otherExponent - reached) - number ≤ 0)]
    linarith

theorem first_shift (tracks : Tracks number (.ofMantissaAndAccuracy mantissa accuracy))
    (enough : 2 ^ 52 ≤ mantissa ∨ exponent ≤ -1074) :
    ∃ (extended : ExtendedMantissa) (count : Nat),
      shiftToTargetExponent Format.binary64 mantissa exponent accuracy =
        (extended, exponent + count) ∧
        -1074 ≤ exponent + count ∧ Tracks (number / 2 ^ count) extended ∧
        number / 2 ^ count < 2 ^ 53 ∧
        (2 ^ 52 ≤ number / 2 ^ count ∨ exponent + count = -1074) := by
  have target := target_exponent_eq mantissa exponent
  have inside := tracks.bounds
  rw [accurate_mantissa] at inside
  have bits : 2 ^ 52 ≤ mantissa → 52 ≤ mantissa.log2 := fun full =>
    (Nat.le_log2 (by omega)).2 full
  let count := (Format.binary64.targetExponent (totalExponent mantissa exponent) - exponent).toNat
  have reached : exponent + count = max (mantissa.log2 + exponent - 52) (-1074) := by omega
  have positive : (0 : ℝ) < 2 ^ count := by positivity
  refine ⟨_, count, rfl, by omega, tracks.shift count, ?_, ?_⟩
  · have above : mantissa + 1 ≤ 2 ^ (53 + count) :=
      Nat.lt_log2_self.trans_le (Nat.pow_le_pow_right two_pos (by omega))
    have cast : (mantissa : ℝ) + 1 ≤ 2 ^ 53 * 2 ^ count := by
      rw [← pow_add]
      exact_mod_cast above
    rw [div_lt_iff₀ positive]
    linarith
  · rcases eq_or_ne (exponent + count) (-1074) with lowest | higher
    · exact .inr lowest
    · have some : mantissa ≠ 0 := by
        rintro rfl
        have none : Nat.log2 0 = 0 := Nat.log2_zero
        omega
      have below : 2 ^ (52 + count) ≤ mantissa :=
        (Nat.pow_le_pow_right two_pos (by omega)).trans (Nat.log2_self_le some)
      have cast : (2 : ℝ) ^ 52 * 2 ^ count ≤ mantissa := by
        rw [← pow_add]
        exact_mod_cast below
      left
      rw [le_div_iff₀ positive]
      linarith

/-- Rounding yields a nearest double, provided that there are bits enough to begin with. -/
theorem round_nearest (tracks : Tracks number (.ofMantissaAndAccuracy mantissa accuracy))
    (enough : 2 ^ 52 ≤ mantissa ∨ exponent ≤ -1074) (sign : Sign) :
    ∃ rounded, Means sign rounded
        (roundWithAccuracy Format.binary64 sign mantissa exponent accuracy) ∧
      Nearest (number * 2 ^ exponent) rounded := by
  obtain ⟨extended, count, shift, low, kept, high, full⟩ := first_shift tracks enough
  have inside := kept.bounds
  have ends := rounded_mantissa_bounds extended
  have bounded : extended.roundedMantissa ≤ 2 ^ 53 := by
    have short : extended.mantissa < 2 ^ 53 := by exact_mod_cast inside.1.trans_lt high
    omega
  have filled : 2 ^ 52 ≤ extended.roundedMantissa ∨ exponent + count = -1074 := by
    refine full.imp (fun least => ?_) id
    have more : 2 ^ 52 < extended.mantissa + 1 := by exact_mod_cast least.trans_lt inside.2
    omega
  have means := round_means sign shift low bounded filled
  refine ⟨_, means, ?_⟩
  have same : number * 2 ^ exponent = number / 2 ^ count * 2 ^ (exponent + count) := by
    rw [zpow_add₀ two_ne_zero, zpow_natCast]
    field_simp
  rw [same]
  exact nearest_of_grid means.representable kept.nearest_whole full

end Round

end Resemblance
