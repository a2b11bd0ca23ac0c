import Mathlib
import Resemblance.Proofs.ConsistencyRange

/-!
Sums and differences of finite doubles of any sign. They are nearest doubles of the exact results,
so that their magnitude can be followed: a running mean of numbers that do not exceed a power of two
never exceeds twice that power, however many the numbers are.
-/

namespace Resemblance

open Float.Model (Format UnpackedFloat)
open Float.Model.UnpackedFloat

/-- A nearest number among those that doubles of either sign can stand for. -/
structure NearestSigned (exact rounded : ℝ) : Prop where
  representable : Representable |rounded|
  closest : ∀ other, Representable |other| → |rounded - exact| ≤ |other - exact|

/-- A finite double whose size is at most the bound. -/
def Sized (bound : ℝ) (x : Float) : Prop :=
  ∃ number : ℝ, Valued x number ∧ |number| ≤ bound

section Sums

variable {sign : Sign} {x y z : Float}
  {number number' exact rounded size bound bound' : ℝ} {power : Nat}

theorem Worth.valued_signed (worth : Worth sign x size) : Valued x (signed sign size : ℝ) := by
  unfold Worth at worth
  unfold Valued
  generalize x.toModel.unpack = unpacked at worth ⊢
  cases worth with
  | zero own =>
      rw [signed_zero]
      exact .zero own
  | finite mantissa exponent positive canonical =>
      cases sign with
      | negative => exact .below mantissa exponent positive canonical
      | positive => exact .above mantissa exponent positive canonical

theorem Valued.signed_worth (valued : Valued x number) :
    ∃ sign size, Worth sign x size ∧ signed sign size = number := by
  unfold Valued at valued
  unfold Worth
  generalize x.toModel.unpack = unpacked at valued ⊢
  generalize known : (number : EReal) = value at valued
  cases valued with
  | bottom => exact absurd known (EReal.coe_ne_bot number)
  | top => exact absurd known (EReal.coe_ne_top number)
  | zero own => exact ⟨.positive, 0, .zero own, (EReal.coe_eq_zero.1 known).symm⟩
  | below mantissa exponent positive canonical =>
      exact ⟨.negative, _, .finite mantissa exponent positive canonical,
        (EReal.coe_injective known).symm⟩
  | above mantissa exponent positive canonical =>
      exact ⟨.positive, _, .finite mantissa exponent positive canonical,
        (EReal.coe_injective known).symm⟩

theorem Valued.representable (valued : Valued x number) : Representable |number| := by
  obtain ⟨sign, size, worth, rfl⟩ := valued.signed_worth
  rw [abs_signed sign worth.nonneg]
  exact worth.representable

/-- A nearest size stays nearest behind a sign: a number of the other sign is farther away than its
size. -/
theorem Nearest.behind_sign (nearest : Nearest exact rounded) (least : 0 ≤ exact)
    (least' : 0 ≤ rounded)
    (sign : Sign) : NearestSigned (signed sign exact) (signed sign rounded) where
  representable := by
    rw [abs_signed sign least']
    exact nearest.representable
  closest other own := by
    have apart : |signed sign rounded - signed sign exact| = |rounded - exact| := by
      cases sign with
      | negative => rw [signed, signed, neg_sub_neg, abs_sub_comm]
      | positive => rfl
    calc |signed sign rounded - signed sign exact| = |rounded - exact| := apart
      _ ≤ |(|other| - exact)| := nearest.closest |other| own
      _ = |(|other| - |signed sign exact|)| := by rw [abs_signed sign least]
      _ ≤ |other - signed sign exact| := abs_abs_sub_abs_le_abs_sub other (signed sign exact)

theorem NearestSigned.size_le (nearest : NearestSigned exact rounded) (own : Representable bound)
    (least : |exact| ≤ bound) : |rounded| ≤ bound := by
  obtain ⟨low, high⟩ := abs_le.1 least
  have size : |bound| = bound := abs_of_nonneg ((abs_nonneg exact).trans least)
  have above := nearest.closest bound (by rwa [size])
  have below := nearest.closest (-bound) (by rwa [abs_neg, size])
  rw [abs_of_nonneg (sub_nonneg.2 high)] at above
  rw [abs_of_nonpos (by linarith : -bound - exact ≤ 0)] at below
  exact abs_le.2 ⟨by linarith [(abs_le.1 below).1], by linarith [(abs_le.1 above).2]⟩

/-- What is computed for the size of a number stands for the number, with the sign that the number
has. -/
theorem Computes.signed (computes : Computes sign |exact| x) (own : signed sign |exact| = exact)
    (small : |exact| ≤ 2 ^ 1023) : ∃ rounded : ℝ, Valued x rounded ∧
    NearestSigned exact rounded := by
  obtain ⟨size, worth, nearest⟩ := computes.nearest small
  have behind := nearest.behind_sign (abs_nonneg exact) worth.nonneg sign
  rw [own] at behind
  exact ⟨_, worth.valued_signed, behind⟩

theorem Valued.add (valued : Valued x number) (valued' : Valued y number')
    (small : |number + number'| ≤ 2 ^ 1023) :
    ∃ rounded : ℝ, Valued (x + y) rounded ∧ NearestSigned (number + number') rounded := by
  obtain ⟨sign, size, worth, rfl⟩ := valued.signed_worth
  obtain ⟨sign', size', worth', rfl⟩ := valued'.signed_worth
  obtain ⟨own, same, rounds⟩ := Means.add_finite worth worth'
  exact (rounds.computes rfl).signed same small

theorem Valued.sub (valued : Valued x number) (valued' : Valued y number')
    (small : |number - number'| ≤ 2 ^ 1023) :
    ∃ rounded : ℝ, Valued (x - y) rounded ∧ NearestSigned (number - number') rounded := by
  obtain ⟨sign, size, worth, rfl⟩ := valued.signed_worth
  obtain ⟨sign', size', worth', rfl⟩ := valued'.signed_worth
  obtain ⟨own, same, rounds⟩ := Means.add_finite worth (Means.neg worth')
  rw [signed_neg, ← sub_eq_add_neg] at same rounds
  exact (rounds.computes (congrArg Float.Model.pack (unpacked_sub_eq_add_neg _ _))).signed
    same small

theorem Valued.div_count (valued : Valued x number) (count : Nat) :
    ∃ part : ℝ, Valued (x / (count + 1).toFloat) part ∧ part ∈ Set.uIcc 0 number := by
  obtain ⟨sign, size, worth, rfl⟩ := valued.signed_worth
  obtain ⟨part, less, worth'⟩ := worth.div_count count
  refine ⟨signed sign part, worth'.valued_signed, ?_⟩
  cases sign with
  | negative => exact Set.mem_uIcc_of_ge (neg_le_neg less) (neg_nonpos.2 worth'.nonneg)
  | positive => exact Set.mem_uIcc_of_le worth'.nonneg less

theorem Computes.exactly (computes : Computes sign size x) (own : Representable size)
    (small : ¬ Excessive size) :
    Worth sign x size := by
  obtain ⟨rounded, nearest, computed⟩ := computes
  have close := nearest.closest size own
  rw [sub_self, abs_zero] at close
  obtain rfl : rounded = size := sub_eq_zero.1 (abs_nonpos_iff.1 close)
  rcases computed with ⟨-, worth⟩ | ⟨great, -⟩
  · exact worth
  · exact absurd great small

theorem Worth.neg (worth : Worth sign x size) : Worth (-sign) (-x) size := by
  have computes : Computes (-sign) size (-x) := (Means.neg worth).rounds.computes rfl
  exact computes.exactly worth.representable worth.not_excessive

theorem Sized.neg (sized : Sized bound x) : Sized bound (-x) := by
  obtain ⟨number, valued, least⟩ := sized
  obtain ⟨sign, size, worth, rfl⟩ := valued.signed_worth
  refine ⟨_, worth.neg.valued_signed, ?_⟩
  rwa [signed_neg, abs_neg]

theorem Sized.between (low : Sized bound x) (high : Sized bound z) (above : x ≤ y) (below : y ≤ z) :
    Sized bound y := by
  obtain ⟨number, valued, least⟩ := low
  obtain ⟨number', valued', least'⟩ := high
  obtain ⟨value, own⟩ := number_valued (le_numbers above).2
  have above := (valued.le_iff own).1 above
  have below := (own.le_iff valued').1 below
  lift value to ℝ using
    ⟨(below.trans_lt (EReal.coe_lt_top number')).ne, ((EReal.bot_lt_coe number).trans_le above).ne'⟩
  refine ⟨value, own, ?_⟩
  exact (abs_le_max_abs_abs (EReal.coe_le_coe_iff.1 above) (EReal.coe_le_coe_iff.1 below)).trans
    (max_le least least')

theorem Sized.mono (sized : Sized bound x) (le : bound ≤ bound') : Sized bound' x := by
  obtain ⟨number, valued, least⟩ := sized
  exact ⟨number, valued, least.trans le⟩

theorem Sized.sub (sized : Sized (2 ^ power) x) (sized' : Sized (2 ^ power) y)
    (small : power + 1 ≤ 1023) :
    Sized (2 ^ (power + 1)) (x - y) := by
  obtain ⟨number, valued, least⟩ := sized
  obtain ⟨number', valued', least'⟩ := sized'
  have sum : |number - number'| ≤ 2 ^ (power + 1) := by
    rw [pow_succ, mul_two]
    exact (abs_sub number number').trans (add_le_add least least')
  obtain ⟨rounded, found, nearest⟩ :=
    valued.sub valued' (sum.trans (pow_le_pow_right₀ one_le_two small))
  exact ⟨rounded, found, nearest.size_le (representable_two_pow (power + 1)) sum⟩

/-- The product of finite numbers is a number, possibly infinite. -/
theorem Sized.mul_is_number (sized : Sized bound x) (sized' : Sized bound' y) :
    (x * y).toModel.unpack ≠ .notANumber := by
  obtain ⟨number, valued, -⟩ := sized
  obtain ⟨number', valued', -⟩ := sized'
  obtain ⟨sign, size, worth, -⟩ := valued.signed_worth
  obtain ⟨sign', size', worth', -⟩ := valued'.signed_worth
  exact (worth.mul worth').sided.is_number

/-- A mean moves toward the number that is added. The way there is rounded no farther off than the
way to zero is, so that it does not lead beyond twice the number. -/
theorem RunningMean.sized {running : RunningMean Float}
    (sized : Sized (2 ^ (power + 1)) running.mean)
    (sized' : Sized (2 ^ power) x) (small : power + 2 ≤ 1023) :
    Sized (2 ^ (power + 1)) (running.add x).mean := by
  obtain ⟨mean, valued, least⟩ := sized
  obtain ⟨number, valued', least'⟩ := sized'
  have wide : (2 : ℝ) ^ power ≤ 2 ^ (power + 1) := pow_le_pow_right₀ one_le_two (Nat.le_succ power)
  have double : (2 : ℝ) ^ (power + 1) ≤ 2 ^ 1023 := pow_le_pow_right₀ one_le_two (by omega)
  have far : |number - mean| ≤ 2 ^ 1023 :=
    calc |number - mean| ≤ |number| + |mean| := abs_sub number mean
      _ ≤ 2 ^ (power + 1) + 2 ^ (power + 1) := add_le_add (least'.trans wide) least
      _ = 2 ^ (power + 2) := by ring
      _ ≤ 2 ^ 1023 := pow_le_pow_right₀ one_le_two small
  obtain ⟨way, found, nearest⟩ := valued'.sub valued far
  obtain ⟨part, found', between⟩ := found.div_count running.count
  -- The way back to zero is among what the way is rounded to, and its error is the size of the
  -- number.
  have back := nearest.closest (-mean) (by rw [abs_neg]; exact valued.representable)
  have arrived : |mean + way| ≤ 2 ^ (power + 1) :=
    calc |mean + way| = |(way - (number - mean)) + number| := by ring_nf
      _ ≤ |way - (number - mean)| + |number| := abs_add_le _ _
      _ ≤ |number| + |number| := by
          refine add_le_add_left (back.trans_eq ?_) _
          rw [← abs_neg]
          ring_nf
      _ ≤ 2 ^ power + 2 ^ power := add_le_add least' least'
      _ = 2 ^ (power + 1) := by ring
  have moved : |mean + part| ≤ 2 ^ (power + 1) := by
    rcases Set.mem_uIcc.1 between with ⟨low, high⟩ | ⟨low, high⟩
    · exact (abs_le_max_abs_abs (le_add_of_nonneg_right low) (add_le_add_right high mean)).trans
        (max_le least arrived)
    · exact (abs_le_max_abs_abs (add_le_add_right low mean) (add_le_of_nonpos_right high)).trans
        (max_le arrived least)
  obtain ⟨rounded, found'', nearest'⟩ := valued.add found' (moved.trans double)
  exact ⟨rounded, found'', nearest'.size_le (representable_two_pow (power + 1)) moved⟩

end Sums
end Resemblance
