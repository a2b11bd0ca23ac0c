import Mathlib.Algebra.Order.Field.Power
import Mathlib.Tactic.FieldSimp
import Mathlib.Tactic.Linarith
import Mathlib.Tactic.NormNum
import Mathlib.Tactic.Positivity
import Mathlib.Tactic.Ring
import Resemblance.Decimal.Shortest

/-!
Rounding to doubles, in exact numbers: which mantissa a fraction is rounded to, and that the search
for its binary place ends at the place it is in.
-/

namespace Resemblance

namespace Decimal

def value (decimal : Decimal) : ℚ :=
  decimal.digits * 10 ^ decimal.exponent

theorem zpow_eq_quotient (base : ℚ) (exponent : Int) :
    base ^ exponent = base ^ exponent.toNat / base ^ (-exponent).toNat := by
  rcases Int.le_total 0 exponent with up | down
  · obtain ⟨n, rfl⟩ := Int.eq_ofNat_of_zero_le up
    simp
  · obtain ⟨n, equal⟩ := Int.eq_ofNat_of_zero_le (Int.neg_nonneg_of_nonpos down)
    obtain rfl : exponent = -(n : Int) := by omega
    simp

theorem value_eq_quotient (decimal : Decimal) :
    decimal.value =
      ((decimal.digits * Nat.pow 10 decimal.exponent.toNat : Nat) : ℚ) /
        ((Nat.pow 10 (-decimal.exponent).toNat : Nat) : ℚ) := by
  rw [value, zpow_eq_quotient, ← mul_div_assoc]
  simp only [Nat.pow_eq, Nat.cast_mul, Nat.cast_pow, Nat.cast_ofNat]

/-- A half is rounded to the even neighbour, anything else to the nearest. -/
theorem round_half_even_eq {num den rounded : Nat} (positive : 0 < den)
    (low : 2 * rounded * den ≤ 2 * num + den) (high : 2 * num ≤ 2 * rounded * den + den)
    (tie : rounded % 2 = 0 ∨
      (2 * rounded * den < 2 * num + den ∧ 2 * num < 2 * rounded * den + den)) :
    roundHalfEven num den = rounded := by
  have split : num / den * den + num % den = num := by
    rw [Nat.mul_comm, Nat.div_add_mod]
  have small := Nat.mod_lt num positive
  have joined : 2 * rounded * den = 2 * (rounded * den) := Nat.mul_assoc _ _ _
  have atMost : rounded ≤ num / den + 1 := by
    by_contra above
    have far : (num / den + 2) * den ≤ rounded * den := Nat.mul_le_mul_right den (by omega)
    rw [Nat.add_mul] at far
    omega
  have atLeast : num / den ≤ rounded := by
    by_contra below
    have far : (rounded + 1) * den ≤ num / den * den := Nat.mul_le_mul_right den (by omega)
    rw [Nat.add_mul] at far
    omega
  rw [joined] at low high tie
  rw [roundHalfEven]
  rcases Nat.eq_or_lt_of_le atLeast with same | less
  · have product : rounded * den = num / den * den := by rw [same]
    split <;> rename_i short
    · exact same
    · split
      · omega
      · omega
  · obtain rfl : rounded = num / den + 1 := by omega
    rw [Nat.add_mul] at low high tie
    split <;> rename_i short
    · omega
    · split
      · omega
      · rfl

section Nearest

variable {num den : Nat} {q : Int}

theorem scaled_le_iff (num : Nat) (q : Int) (positive : 0 < den) (count : Nat) :
    count * den * Nat.pow 2 q.toNat ≤ num * Nat.pow 2 (-q).toNat ↔
      (count : ℚ) * 2 ^ q ≤ (num : ℚ) / den := by
  have lower : (0 : ℚ) < 2 ^ (-q).toNat := by positivity
  have whole : (0 : ℚ) < den := Nat.cast_pos.2 positive
  rw [zpow_eq_quotient, ← mul_div_assoc, div_le_div_iff₀ lower whole, ← Nat.cast_le (α := ℚ)]
  simp only [Nat.pow_eq, Nat.cast_mul, Nat.cast_pow, Nat.cast_ofNat]
  rw [mul_right_comm]

theorem log2_bounds {n : Nat} (positive : 0 < n) :
    (2 : ℚ) ^ (n.log2 : Int) ≤ n ∧ (n : ℚ) < 2 ^ ((n.log2 : Int) + 1) := by
  have low := Nat.log2_self_le (Nat.ne_of_gt positive)
  have high := Nat.lt_log2_self (n := n)
  constructor
  · exact_mod_cast low
  · exact_mod_cast high

/-- The binary place of a fraction: at this exponent it has fifty-three digits before the point. -/
theorem binary_place (num_pos : 0 < num) (den_pos : 0 < den) :
    let guess : Int := (Nat.log2 num : Int) - (Nat.log2 den : Int) - 52
    let place : Int :=
      if Nat.pow 2 52 * den * Nat.pow 2 guess.toNat ≤ num * Nat.pow 2 (-guess).toNat then guess
      else guess - 1
    (2 : ℚ) ^ (52 + place) ≤ (num : ℚ) / den ∧ (num : ℚ) / den < 2 ^ (53 + place) := by
  intro guess place
  obtain ⟨low, high⟩ := log2_bounds num_pos
  obtain ⟨low', high'⟩ := log2_bounds den_pos
  have whole : (0 : ℚ) < den := Nat.cast_pos.2 den_pos
  have above : (num : ℚ) / den < 2 ^ (53 + guess) := by
    rw [div_lt_iff₀ whole]
    calc (num : ℚ) < 2 ^ ((num.log2 : Int) + 1) := high
      _ = 2 ^ (53 + guess) * 2 ^ (den.log2 : Int) := by
          rw [← zpow_add₀ (by norm_num)]
          congr 1
          omega
      _ ≤ 2 ^ (53 + guess) * den := by gcongr
  have below : (2 : ℚ) ^ (51 + guess) ≤ (num : ℚ) / den := by
    rw [le_div_iff₀ whole]
    calc (2 : ℚ) ^ (51 + guess) * den ≤ 2 ^ (51 + guess) * 2 ^ ((den.log2 : Int) + 1) := by gcongr
      _ = 2 ^ (num.log2 : Int) := by
          rw [← zpow_add₀ (by norm_num)]
          congr 1
          omega
      _ ≤ num := low
  have fits := scaled_le_iff num guess den_pos (Nat.pow 2 52)
  have joined : ((Nat.pow 2 52 : Nat) : ℚ) * 2 ^ guess = 2 ^ (52 + guess) := by
    rw [zpow_add₀ (by norm_num)]
    norm_num
  rw [joined] at fits
  by_cases there : Nat.pow 2 52 * den * Nat.pow 2 guess.toNat ≤ num * Nat.pow 2 (-guess).toNat
  · have found : place = guess := if_pos there
    rw [found]
    exact ⟨fits.1 there, above⟩
  · have found : place = guess - 1 := if_neg there
    rw [found]
    constructor
    · rwa [show 52 + (guess - 1) = 51 + guess by omega]
    · rw [show 53 + (guess - 1) = 52 + guess by omega]
      exact not_le.1 fun reached => there (fits.2 reached)

/-- What makes a mantissa at an exponent the one to which a number is rounded. -/
structure RoundsTo (number : ℚ) (mantissa : Nat) (q : Int) : Prop where
  lowest : -1074 ≤ q
  place : q = -1074 ∨ (2 : ℚ) ^ (52 + q) ≤ number
  below : number < 2 ^ (53 + q)
  low : 2 * mantissa * (2 : ℚ) ^ q ≤ 2 * number + 2 ^ q
  high : 2 * number ≤ 2 * mantissa * (2 : ℚ) ^ q + 2 ^ q
  tie : mantissa % 2 = 0 ∨
    2 * mantissa * (2 : ℚ) ^ q < 2 * number + 2 ^ q ∧
    2 * number < 2 * mantissa * (2 : ℚ) ^ q + 2 ^ q

/-- The division that rounds gives the mantissa to which the number is rounded. -/
theorem RoundsTo.round_half_even {mantissa : Nat} (den_pos : 0 < den)
    (rounds : RoundsTo ((num : ℚ) / den) mantissa q) :
    roundHalfEven (num * Nat.pow 2 (-q).toNat) (den * Nat.pow 2 q.toNat) = mantissa := by
  have whole : (0 : ℚ) < den := Nat.cast_pos.2 den_pos
  have factor : (0 : ℚ) < den * 2 ^ (-q).toNat := by positivity
  have number : ((num : ℚ) / den) * (den * 2 ^ (-q).toNat) =
      ((num * Nat.pow 2 (-q).toNat : Nat) : ℚ) := by
    simp only [Nat.pow_eq, Nat.cast_mul, Nat.cast_pow, Nat.cast_ofNat]
    field_simp
  have place : (2 : ℚ) ^ q * (den * 2 ^ (-q).toNat) = ((den * Nat.pow 2 q.toNat : Nat) : ℚ) := by
    simp only [Nat.pow_eq, Nat.cast_mul, Nat.cast_pow, Nat.cast_ofNat]
    rw [zpow_eq_quotient]
    field_simp
  have lower : (2 * mantissa * (2 : ℚ) ^ q) * (den * 2 ^ (-q).toNat) =
      ((2 * mantissa * (den * Nat.pow 2 q.toNat) : Nat) : ℚ) := by
    rw [mul_assoc, place]
    push_cast
    rfl
  have upper : (2 * ((num : ℚ) / den)) * (den * 2 ^ (-q).toNat) =
      ((2 * (num * Nat.pow 2 (-q).toNat) : Nat) : ℚ) := by
    rw [mul_assoc, number]
    push_cast
    rfl
  refine round_half_even_eq (Nat.mul_pos den_pos (Nat.pow_pos (by omega))) ?_ ?_ ?_
  · have scaled := mul_le_mul_of_nonneg_right rounds.low factor.le
    rw [add_mul, lower, upper, place] at scaled
    exact_mod_cast scaled
  · have scaled := mul_le_mul_of_nonneg_right rounds.high factor.le
    rw [add_mul, lower, upper, place] at scaled
    exact_mod_cast scaled
  · refine rounds.tie.imp_right fun inside => ?_
    have low := mul_lt_mul_of_pos_right inside.1 factor
    have high := mul_lt_mul_of_pos_right inside.2 factor
    rw [add_mul, lower, upper, place] at low high
    exact ⟨by exact_mod_cast low, by exact_mod_cast high⟩

theorem nearest_bits_eq (num_pos : 0 < num) (den_pos : 0 < den) {mantissa : Nat}
    (rounds : RoundsTo ((num : ℚ) / den) mantissa q)
    (finite : (q + 1074).toNat * Nat.pow 2 52 + mantissa < 2047 * Nat.pow 2 52) :
    nearestBits num den = some ((q + 1074).toNat * Nat.pow 2 52 + mantissa) := by
  have bounds := binary_place num_pos den_pos
  rw [nearestBits]
  dsimp only at bounds ⊢
  generalize (if Nat.pow 2 52 * den *
      Nat.pow 2 ((Nat.log2 num : Int) - (Nat.log2 den : Int) - 52).toNat ≤
    num * Nat.pow 2 (-((Nat.log2 num : Int) - (Nat.log2 den : Int) - 52)).toNat then
      ((Nat.log2 num : Int) - (Nat.log2 den : Int) - 52)
    else (Nat.log2 num : Int) - (Nat.log2 den : Int) - 52 - 1) = place at bounds ⊢
  have notAbove : place ≤ q := by
    have less := bounds.1.trans_lt rounds.below
    have := (zpow_lt_zpow_iff_right₀ (by norm_num : (1 : ℚ) < 2)).1 less
    omega
  have chosen : max (-1074) place = q := by
    rcases rounds.place with lowest | reached
    · omega
    · have less := reached.trans_lt bounds.2
      have := (zpow_lt_zpow_iff_right₀ (by norm_num : (1 : ℚ) < 2)).1 less
      have := rounds.lowest
      omega
  rw [chosen, rounds.round_half_even den_pos]
  exact if_pos finite

theorem nearest_bits_lt {bits : Nat} (found : nearestBits num den = some bits) :
    bits < 2047 * 2 ^ 52 := by
  rw [nearestBits] at found
  simp only [Option.ite_none_right_eq_some, Option.some.injEq] at found
  obtain ⟨small, rfl⟩ := found
  exact small

end Nearest

end Decimal
end Resemblance
