import Mathlib
import Resemblance.Scalar
import Resemblance.Proofs.DoubleArithmetic

/-!
Doubles of known sign. Every double that is a number is of one sign, possibly infinite; what is
computed from doubles of one sign is a double of that sign, and it is a nearest one as long as the
exact result is not too great. What cannot be ordered is not a number, so that a number held within
zero and one is in the unit interval.
-/

namespace Resemblance

open Float.Model (Format UnpackedFloat totalExponent)
open Float.Model.UnpackedFloat

/-- A finite double that stands for the number with the given sign before it. -/
def Worth (sign : Sign) (x : Float) (number : ℝ) : Prop :=
  Means sign number x.toModel.unpack

def signed : Sign → ℝ → ℝ
  | .negative, number => -number
  | .positive, number => number

def Sided (sign : Sign) (x : Float) : Prop :=
  (∃ number, Worth sign x number) ∨ x.toModel.unpack = .infinity sign

/-- A double that stands for a number from zero to the bound. -/
def Within (bound : ℝ) (x : Float) : Prop :=
  ∃ number ≤ bound, Worth .positive x number

/-- What is computed for an exact number: a nearest double, or infinity where that is too great. -/
def Computes (sign : Sign) (exact : ℝ) (x : Float) : Prop :=
  ∃ rounded, Nearest exact rounded ∧
    (¬ Excessive rounded ∧ Worth sign x rounded ∨ Excessive rounded ∧
     x.toModel.unpack = .infinity sign)

section Signed

variable {sign : Sign} {number : ℝ}

@[simp] theorem signed_zero (sign : Sign) : signed sign 0 = 0 := by
  cases sign with
  | negative => exact neg_zero
  | positive => rfl

@[simp] theorem signed_neg (sign : Sign) (number : ℝ) :
    signed (-sign) number = -signed sign number := by
  cases sign with
  | negative => exact (neg_neg number).symm
  | positive => rfl

theorem abs_signed (sign : Sign) (least : 0 ≤ number) : |signed sign number| = number := by
  cases sign with
  | negative => exact (abs_neg number).trans (abs_of_nonneg least)
  | positive => exact abs_of_nonneg least

theorem signed_units {mantissa : Nat} {exponent target : Int} (low : target ≤ exponent)
    (sign : Sign) :
    signed sign (mantissa * 2 ^ exponent) =
      (sign.apply (mantissa <<< (exponent - target).toNat : Nat) : Int) * (2 : ℝ) ^ target := by
  have value := decrease_exponent_eq mantissa low
  cases sign with
  | negative =>
      rw [signed, ← value, ← neg_mul, ← Int.cast_neg]
      rfl
  | positive => exact value.symm

end Signed

section Computed

variable {sign sign' : Sign} {x y : Float} {number number' exact bound bound' : ℝ}
  {unpacked : UnpackedFloat}

theorem Canonical.excessive_iff {mantissa : Nat} {exponent : Int}
    (canonical : Canonical mantissa exponent) :
    Excessive (mantissa * 2 ^ exponent) ↔ 971 < exponent := by
  unfold Excessive
  have unit : (0 : ℝ) < 2 ^ exponent := by positivity
  constructor
  · intro great
    by_contra low
    have most : (mantissa : ℝ) < 2 ^ 53 := by exact_mod_cast canonical.short
    have small : (mantissa : ℝ) * 2 ^ exponent < 2 ^ 1024 :=
      calc (mantissa : ℝ) * 2 ^ exponent < 2 ^ 53 * 2 ^ exponent :=
        mul_lt_mul_of_pos_right most unit
        _ ≤ (2 : ℝ) ^ 53 * (2 : ℝ) ^ (971 : Int) :=
            mul_le_mul_of_nonneg_left (zpow_le_zpow_right₀ one_le_two (by omega)) (by positivity)
        _ = 2 ^ 1024 := by
            rw [← zpow_natCast, ← zpow_natCast, ← zpow_add₀ two_ne_zero]
            norm_num
    exact absurd great small.not_ge
  · intro high
    have full : 2 ^ 52 ≤ mantissa := canonical.full.resolve_right (by omega)
    have cast : (2 : ℝ) ^ 52 ≤ mantissa := by exact_mod_cast full
    calc (2 : ℝ) ^ 1024 = (2 : ℝ) ^ 52 * (2 : ℝ) ^ (972 : Int) := by
          rw [← zpow_natCast, ← zpow_natCast, ← zpow_add₀ two_ne_zero]
          norm_num
      _ ≤ (mantissa : ℝ) * 2 ^ exponent :=
          mul_le_mul cast (zpow_le_zpow_right₀ one_le_two (by omega)) (by positivity)
            (by positivity)

/-- Packing keeps what stands for a number, or turns it into infinity. -/
theorem Rounds.computes (rounds : Rounds sign exact unpacked)
    (packed : x.toModel = Float.Model.pack unpacked) : Computes sign exact x := by
  obtain ⟨rounded, means, nearest⟩ := rounds
  refine ⟨rounded, nearest, ?_⟩
  unfold Worth
  rw [packed]
  cases means with
  | zero own =>
      rw [unpack_pack_zero]
      exact .inl ⟨not_le.2 (by positivity), .zero own⟩
  | finite mantissa exponent positive canonical =>
      have great := canonical.excessive_iff
      by_cases high : 971 < exponent
      · rw [unpack_pack_overflow positive high sign]
        exact .inr ⟨great.2 high, rfl⟩
      · rw [canonical.unpack_pack positive (by omega) sign]
        exact .inl ⟨fun more => high (great.1 more), .finite _ _ _ canonical⟩

theorem Computes.sided (computes : Computes sign exact x) : Sided sign x := by
  obtain ⟨rounded, -, ⟨-, worth⟩ | ⟨-, great⟩⟩ := computes
  · exact .inl ⟨rounded, worth⟩
  · exact .inr great

theorem Computes.nearest (computes : Computes sign exact x) (small : exact ≤ 2 ^ 1023) :
    ∃ number, Worth sign x number ∧ Nearest exact number := by
  obtain ⟨rounded, nearest, ⟨-, worth⟩ | ⟨great, -⟩⟩ := computes
  · exact ⟨rounded, worth, nearest⟩
  · have low := nearest.le_of_le (representable_two_pow 1023) small
    have step : (2 : ℝ) ^ 1023 < 2 ^ 1024 := pow_lt_pow_right₀ one_lt_two (by norm_num)
    exact absurd (le_trans great low) step.not_ge

theorem Computes.finite (computes : Computes sign exact x) (finite : x.isFinite = true) :
    ∃ number, Worth sign x number ∧ Nearest exact number ∧ ¬ Excessive number := by
  obtain ⟨rounded, nearest, ⟨small, worth⟩ | ⟨-, great⟩⟩ := computes
  · exact ⟨rounded, worth, nearest, small⟩
  · have known : x.toModel.unpack.isFinite = true := finite
    rw [great] at known
    cases known

theorem Computes.within (computes : Computes .positive exact x) (own : Representable bound)
    (le : exact ≤ bound) (small : bound ≤ 2 ^ 1023) : Within bound x := by
  obtain ⟨number, worth, nearest⟩ := computes.nearest (le.trans small)
  exact ⟨number, nearest.le_of_le own le, worth⟩

theorem Worth.sided (worth : Worth sign x number) : Sided sign x :=
  .inl ⟨number, worth⟩

theorem Worth.nonneg (worth : Worth sign x number) : 0 ≤ number :=
  Means.nonneg worth

theorem Worth.representable (worth : Worth sign x number) : Representable number :=
  Means.representable worth

theorem Within.sided (within : Within bound x) : Sided .positive x :=
  within.choose_spec.2.sided

theorem Worth.mul (worth : Worth sign x number) (worth' : Worth sign' y number') :
    Computes (sign * sign') (number * number') (x * y) :=
  (Means.mul worth worth').computes rfl

theorem Worth.div (worth : Worth sign x number) (worth' : Worth sign' y number')
    (positive : 0 < number') : Computes (sign / sign') (number / number') (x / y) :=
  (Means.div worth worth' positive).computes rfl

theorem Worth.add (worth : Worth sign x number) (worth' : Worth sign y number') :
    Computes sign (number + number') (x + y) :=
  (Means.add worth worth').computes rfl

theorem Worth.sqrt (worth : Worth .positive x number) : Computes .positive (√number) x.sqrt :=
  (Means.sqrt worth).computes rfl

theorem Worth.sub (worth : Worth .positive x number) (worth' : Worth .positive y number')
    (less : number' ≤ number) : Computes .positive (number - number') (x - y) :=
  ((Means.sub worth worth').1 less).computes rfl

theorem Worth.sub_negative (worth : Worth .positive x number) (worth' : Worth .positive y number')
    (less : number ≤ number') : Computes .negative (number' - number) (x - y) :=
  ((Means.sub worth worth').2 less).computes rfl

/-- Infinity outweighs everything finite, of whatever sign. -/
theorem Worth.infinity_add (worth : Worth sign' y number)
    (great : x.toModel.unpack = .infinity sign) :
    (x + y).toModel.unpack = .infinity sign := by
  rw [to_model_add, great]
  unfold Worth at worth
  generalize y.toModel.unpack = unpacked at worth ⊢
  cases worth with
  | zero own => exact unpack_pack_infinity sign
  | finite mantissa exponent positive canonical => exact unpack_pack_infinity sign

theorem Sided.add_infinity (great : x.toModel.unpack = .infinity sign) (sided : Sided sign y) :
    (x + y).toModel.unpack = .infinity sign := by
  rcases sided with ⟨number, worth⟩ | great'
  · exact worth.infinity_add great
  · rw [to_model_add, great, great']
    cases sign with
    | negative => exact unpack_pack_infinity .negative
    | positive => exact unpack_pack_infinity .positive

theorem Worth.add_infinity (worth : Worth sign x number)
    (great : y.toModel.unpack = .infinity sign) :
    (x + y).toModel.unpack = .infinity sign := by
  rw [to_model_add, great]
  unfold Worth at worth
  generalize x.toModel.unpack = unpacked at worth ⊢
  cases worth with
  | zero own => exact unpack_pack_infinity sign
  | finite mantissa exponent positive canonical => exact unpack_pack_infinity sign

theorem Sided.add (sided : Sided sign x) (sided' : Sided sign y) : Sided sign (x + y) := by
  rcases sided with ⟨number, worth⟩ | great
  · rcases sided' with ⟨number', worth'⟩ | great'
    · exact (worth.add worth').sided
    · exact .inr (worth.add_infinity great')
  · exact .inr (Sided.add_infinity great sided')

theorem sign_div_positive (sign : Sign) : sign / Sign.positive = sign := by
  cases sign with
  | negative => rfl
  | positive => rfl

theorem Sided.div (sided : Sided sign x) (worth : Worth .positive y number)
    (positive : 0 < number) :
    Sided sign (x / y) := by
  rcases sided with ⟨number', worth'⟩ | great
  · have sided := (worth'.div worth positive).sided
    rwa [sign_div_positive] at sided
  · right
    rw [to_model_div, great]
    unfold Worth at worth
    generalize y.toModel.unpack = unpacked at worth ⊢
    cases worth with
    | zero own => exact absurd positive (lt_irrefl 0)
    | finite mantissa exponent some canonical =>
        show (Float.Model.pack (.infinity (sign / Sign.positive))).unpack = _
        rw [sign_div_positive, unpack_pack_infinity]

theorem Worth.sub_sided (worth : Worth .positive x number) (sided : Sided .positive y) :
    ∃ sign, Sided sign (x - y) := by
  rcases sided with ⟨number', worth'⟩ | great
  · rcases le_total number' number with less | less
    · exact ⟨.positive, (worth.sub worth' less).sided⟩
    · exact ⟨.negative, (worth.sub_negative worth' less).sided⟩
  · refine ⟨.negative, .inr ?_⟩
    rw [to_model_sub, great]
    unfold Worth at worth
    generalize x.toModel.unpack = unpacked at worth ⊢
    cases worth with
    | zero own => exact unpack_pack_infinity .negative
    | finite mantissa exponent positive canonical => exact unpack_pack_infinity .negative

theorem Within.mul {most : ℝ} (within : Within bound x) (within' : Within bound' y)
    (own : Representable most) (product : bound * bound' ≤ most) (small : most ≤ 2 ^ 1023) :
    Within most (x * y) := by
  obtain ⟨number, least, worth⟩ := within
  obtain ⟨number', least', worth'⟩ := within'
  exact (worth.mul worth').within own
    ((mul_le_mul least least' worth'.nonneg (worth.nonneg.trans least)).trans product) small

theorem Within.add {most : ℝ} (within : Within bound x) (within' : Within bound' y)
    (own : Representable most) (sum : bound + bound' ≤ most) (small : most ≤ 2 ^ 1023) :
    Within most (x + y) := by
  obtain ⟨number, least, worth⟩ := within
  obtain ⟨number', least', worth'⟩ := within'
  exact (worth.add worth').within own ((add_le_add least least').trans sum) small

theorem Within.quotient (within : Within bound x) (worth : Worth .positive y bound)
    (positive : 0 < bound) : Within 1 (x / y) := by
  obtain ⟨number, least, worth'⟩ := within
  exact (worth'.div worth positive).within representable_one ((div_le_one positive).2 least)
    (one_le_pow₀ one_le_two)

end Computed

section Unpacked

theorem exponent_field_bounds {bits : BitVec 64}
    (partly : @unpackExponent Format.binary64 bits ≠ -1#11) :
    (@unpackExponent Format.binary64 bits).toNat < 2047 := by
  have inside := (@unpackExponent Format.binary64 bits).isLt
  have other : (@unpackExponent Format.binary64 bits).toNat ≠ 2047 := by
    intro full
    exact partly (BitVec.eq_of_toNat_eq full)
  have width : 2 ^ Format.binary64.exponentBits = 2048 := rfl
  omega

theorem unpack_sided (bits : BitVec 64) :
    unpack Format.binary64 bits = .notANumber ∨
      ∃ sign, (∃ number, Means sign number (unpack Format.binary64 bits)) ∨
        unpack Format.binary64 bits = .infinity sign := by
  have bounds := @exponent_field_bounds bits
  have short := (@unpackMantissa Format.binary64 bits).isLt
  have width : 2 ^ Format.binary64.mantissaBitsWithoutImplicit = 2 ^ 52 := rfl
  have bias : Format.binary64.exponentBias = 1023 := rfl
  have leading : (1#1 ++ @unpackMantissa Format.binary64 bits).toNat =
      2 ^ 52 + (@unpackMantissa Format.binary64 bits).toNat := by
    rw [BitVec.toNat_append, ← Nat.shiftLeft_add_eq_or_of_lt short]
    rfl
  unfold unpack
  dsimp only
  split
  next full =>
    split
    next => exact .inr ⟨_, .inr rfl⟩
    next => exact .inl rfl
  next partly =>
    have inside := bounds partly
    right
    refine ⟨Sign.ofBitVec (@unpackSign Format.binary64 bits), .inl ?_⟩
    split
    next lowest =>
      split
      next => exact ⟨0, .zero _⟩
      next some =>
        have none : (@unpackExponent Format.binary64 bits).toNat = 0 := congrArg BitVec.toNat lowest
        exact ⟨_, .finite _ _ _ ⟨by omega, by omega, .inr (by omega)⟩⟩
    next higher =>
      have some : (@unpackExponent Format.binary64 bits).toNat ≠ 0 := by
        intro none
        exact higher (BitVec.eq_of_toNat_eq none)
      exact ⟨_, .finite _ _ _ ⟨by omega, by omega, .inl (by omega)⟩⟩

/-- Every double that is a number is of one sign. -/
theorem number_sided {x : Float} (number : x.toModel.unpack ≠ .notANumber) : ∃ sign, Sided sign x :=
  (unpack_sided x.toBits.toBitVec).resolve_left number

end Unpacked

end Resemblance
