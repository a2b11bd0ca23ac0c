import Mathlib
import Resemblance.Proofs.ShortestDecimal

/-!
Doubles and decimals. A double is finite unless its exponent field is full; the shortest decimal of
a finite double reads back as that double, and what is read from a decimal is always finite.
-/

namespace Resemblance

open Float.Model (Format UnpackedFloat)
open Float.Model.UnpackedFloat (unpackExponent)

theorem exponent_field (bits : BitVec 64) :
    (@unpackExponent Format.binary64 bits).toNat = bits.toNat / 2 ^ 52 % 2 ^ 11 := by
  simp [unpackExponent, Nat.shiftRight_eq_div_pow]

theorem exponent_full_iff (bits : BitVec 64) :
    @unpackExponent Format.binary64 bits = -1#_ ↔ bits.toNat / 2 ^ 52 % 2 ^ 11 = 2047 := by
  rw [← exponent_field, ← BitVec.toNat_inj]
  rfl

theorem unpacked_finite_iff (bits : BitVec 64) :
    (UnpackedFloat.unpack Format.binary64 bits).isFinite = true ↔
      bits.toNat / 2 ^ 52 % 2 ^ 11 ≠ 2047 := by
  rw [← not_iff_not, ne_eq, not_not, ← exponent_full_iff, UnpackedFloat.unpack]
  constructor
  · intro infinite
    by_contra other
    rw [if_neg other] at infinite
    revert infinite
    split
    · split
      · simp [UnpackedFloat.isFinite]
      · simp [UnpackedFloat.isFinite]
    · simp [UnpackedFloat.isFinite]
  · intro full
    rw [if_pos full]
    split
    · simp [UnpackedFloat.isFinite]
    · simp [UnpackedFloat.isFinite]

theorem float_finite_iff (x : Float) :
    x.isFinite = true ↔ x.toBits.toNat / 2 ^ 52 % 2 ^ 11 ≠ 2047 :=
  unpacked_finite_iff x.toBits.toBitVec

theorem float_of_bits_finite (bits : UInt64) (finite : bits.toNat / 2 ^ 52 % 2 ^ 11 ≠ 2047) :
    (Float.ofBits bits).isFinite = true := by
  -- Only bits that stand for no number at all are replaced by others.
  have valid : Format.binary64.Valid bits.toBitVec :=
    ⟨fun full => absurd ((exponent_full_iff bits.toBitVec).1 full) finite⟩
  have same : Float.ofBits bits = ⟨⟨bits, valid⟩⟩ := Float.ofBits_toBits ⟨⟨bits, valid⟩⟩
  rw [same]
  exact (float_finite_iff _).2 finite

namespace Decimal

/-- The shortest decimal of a finite double reads back as it, also after it was written in another
way. -/
theorem shortest_to_float {tie : Tie} {x : Float} {decimal : Decimal} (finite : x.isFinite = true)
    (same : decimal.value = (shortest tie (Binary.ofFloat x)).value) :
    decimal.toFloat? (isNegative x) = some x := by
  have canonical := Binary.canonical_of_bits x.toBits ((float_finite_iff x).1 finite)
  rw [toFloat?, shortest_to_bits canonical same, Binary.magnitude_bits_of_bits, Option.map_some]
  have range : x.toBits.toNat < 2 ^ 64 := x.toBits.toNat_lt
  have joined :
      (if isNegative x then x.toBits.toNat % 2 ^ 63 + Nat.pow 2 63 else x.toBits.toNat % 2 ^ 63) =
        x.toBits.toNat := by
    simp only [isNegative, beq_iff_eq, Nat.pow_eq]
    split <;> omega
  rw [joined, UInt64.ofNat_toNat, Float.ofBits_toBits]

theorem to_float_finite {decimal : Decimal} {negative : Bool} {x : Float}
    (read : decimal.toFloat? negative = some x) : x.isFinite = true := by
  obtain ⟨bits, found, rfl⟩ := Option.map_eq_some_iff.1 read
  have small := to_bits_lt found
  refine float_of_bits_finite _ ?_
  rw [UInt64.toNat_ofNat']
  cases negative with
  | false => simp only [Bool.false_eq_true, if_false]; omega
  | true => simp only [if_true, Nat.pow_eq]; omega

end Decimal
end Resemblance
