import Mathlib
import Resemblance.Ratio
import Resemblance.Proofs.Double

/-!
The quotient of two counts as a double. A count of at most fifty-three bits is a double without
rounding, and the quotient of a smaller count by a greater one stays below one when it is rounded:
between them and one there is another double.
-/

namespace Resemblance

open Float.Model (Format UnpackedFloat totalExponent)
open Float.Model.UnpackedFloat

/-- A mantissa of fifty-three bits, as finite doubles have it unless they are very small. -/
structure FullMantissa (mantissa : Nat) : Prop where
  low : 2 ^ 52 ≤ mantissa
  high : mantissa < 2 ^ 53

theorem FullMantissa.pos {mantissa : Nat} (full : FullMantissa mantissa) : 0 < mantissa :=
  Nat.lt_of_lt_of_le (Nat.two_pow_pos 52) full.low

theorem log2_eq_of_bounds {mantissa bits : Nat} (low : 2 ^ bits ≤ mantissa)
    (high : mantissa < 2 ^ (bits + 1)) : mantissa.log2 = bits := by
  have positive := Nat.lt_of_lt_of_le (Nat.two_pow_pos bits) low
  exact (Nat.log2_eq_iff (Nat.ne_of_gt positive)).2 ⟨low, high⟩

theorem FullMantissa.log2_eq {mantissa : Nat} (full : FullMantissa mantissa) : mantissa.log2 = 52 :=
  log2_eq_of_bounds full.low full.high

theorem target_exponent_eq (mantissa : Nat) (exponent : Int) :
    Format.binary64.targetExponent (totalExponent mantissa exponent) =
      max (mantissa.log2 + exponent - 52) (-1074) := by
  have lowest : Format.binary64.minExponent = -1074 := rfl
  have bits : (Format.binary64.mantissaBits : Int) = 53 := rfl
  rw [Format.targetExponent, totalExponent, lowest, bits]
  congr 1
  omega

theorem shift_to_target_eq {mantissa : Nat} {exponent : Int} {count : Nat}
    (bits : mantissa.log2 = 52 + count) (low : -1074 ≤ exponent) (accuracy : Accuracy) :
    shiftToTargetExponent Format.binary64 mantissa exponent accuracy =
      (ExtendedMantissa.ofMantissaAndAccuracy mantissa accuracy >>> count, exponent + count) := by
  have target := target_exponent_eq mantissa exponent
  rw [bits, Int.max_eq_left (by omega)] at target
  have amount : (Format.binary64.targetExponent (totalExponent mantissa exponent) -
      exponent).toNat = count := by omega
  simp only [shiftToTargetExponent, shiftToExponent, amount]

theorem FullMantissa.shift_eq {mantissa : Nat} {exponent : Int} (full : FullMantissa mantissa)
    (low : -1074 ≤ exponent) (accuracy : Accuracy) :
    shiftToTargetExponent Format.binary64 mantissa exponent accuracy =
      (ExtendedMantissa.ofMantissaAndAccuracy mantissa accuracy, exponent) := by
  have bits : mantissa.log2 = 52 + 0 := full.log2_eq
  have shifted := shift_to_target_eq bits low accuracy
  rwa [Int.natCast_zero, Int.add_zero] at shifted

theorem shift_right_exact (mantissa count : Nat) :
    (⟨mantissa * 2 ^ count, false, false⟩ : ExtendedMantissa) >>> count =
      ⟨mantissa, false, false⟩ := by
  induction count generalizing mantissa with
  | zero => simp [HShiftRight.hShiftRight, Nat.repeat]
  | succ count ih =>
      have shifted := ih (mantissa * 2)
      rw [Nat.mul_assoc, ← Nat.pow_succ'] at shifted
      have step := congrArg ExtendedMantissa.shiftRightOne shifted
      simpa [HShiftRight.hShiftRight, Nat.repeat, ExtendedMantissa.shiftRightOne] using step

section Round

variable {sign : Sign} {mantissa : Nat} {exponent reached : Int} {accuracy : Accuracy}
  {extended : ExtendedMantissa}

theorem round_of_full
    (shift : shiftToTargetExponent Format.binary64 mantissa exponent accuracy = (extended, reached))
    (low : -1074 ≤ reached) (full : FullMantissa extended.roundedMantissa) :
    roundWithAccuracy Format.binary64 sign mantissa exponent accuracy =
      .finite sign extended.roundedMantissa reached full.pos := by
  have second := full.shift_eq low .exact
  simp only [roundWithAccuracy, shift, second, ExtendedMantissa.ofMantissaAndAccuracy]
  exact dif_neg (Nat.ne_of_gt full.pos)

/-- A mantissa that is rounded up to the next power of two carries over to the exponent. -/
theorem round_of_carry
    (shift : shiftToTargetExponent Format.binary64 mantissa exponent accuracy = (extended, reached))
    (low : -1074 ≤ reached) (carry : extended.roundedMantissa = 2 ^ 53) :
    roundWithAccuracy Format.binary64 sign mantissa exponent accuracy =
      .finite sign (2 ^ 52) (reached + 1) (Nat.two_pow_pos 52) := by
  have bits : (2 ^ 53).log2 = 52 + 1 := Nat.log2_two_pow
  have second := shift_to_target_eq bits low .exact
  simp only [roundWithAccuracy, shift, carry, second]
  rfl

end Round

theorem FullMantissa.round_exact {mantissa : Nat} (full : FullMantissa mantissa) (sign : Sign)
    {exponent : Int} (low : -1074 ≤ exponent) :
    roundWithAccuracy Format.binary64 sign mantissa exponent .exact =
      .finite sign mantissa exponent full.pos :=
  round_of_full (full.shift_eq low .exact) low full

theorem unpack_sign_eq (sign : Sign) (exponent : BitVec 11) (mantissa : BitVec 52) :
    Sign.ofBitVec (unpackSign (packComponents Format.binary64 sign exponent mantissa)) = sign := by
  simp only [unpackSign, packComponents, BitVec.extractLsb]
  rw [BitVec.extractLsb'_append_eq_of_le (by omega), BitVec.extractLsb'_append_eq_of_le (by omega)]
  cases sign with
  | positive => rfl
  | negative => rfl

theorem FullMantissa.leading_bit {mantissa : Nat} (full : FullMantissa mantissa) :
    (1#1 ++ BitVec.ofNat 52 mantissa).toNat = mantissa := by
  have low := full.low
  have high := full.high
  rw [BitVec.toNat_append, ← Nat.shiftLeft_add_eq_or_of_lt (BitVec.isLt _), Nat.shiftLeft_eq,
    BitVec.toNat_ofNat, BitVec.toNat_ofNat]
  omega

theorem FullMantissa.unpack_pack {mantissa : Nat} (full : FullMantissa mantissa) (sign : Sign)
    {exponent : Int} (low : -1074 ≤ exponent) (high : exponent ≤ 971) :
    (Float.Model.pack (.finite sign mantissa exponent full.pos)).unpack =
      .finite sign mantissa exponent full.pos := by
  obtain ⟨biased, shifted⟩ : ∃ biased : Nat, (biased : Int) = exponent + 1075 :=
    ⟨(exponent + 1075).toNat, by omega⟩
  have packed : (exponent + Format.binary64.exponentBias +
      Format.binary64.mantissaBitsWithoutImplicit).toNat = biased := by
    show (exponent + (1023 : Nat) + (52 : Nat)).toNat = biased
    omega
  have inside : (BitVec.ofNat 11 biased).toNat = biased := by
    rw [BitVec.toNat_ofNat]
    omega
  have finite : BitVec.ofNat 11 biased ≠ -1#11 := by
    intro same
    have := congrArg BitVec.toNat same
    rw [inside] at this
    simp at this
    omega
  have normal : BitVec.ofNat 11 biased ≠ 0#11 := by
    intro same
    have := congrArg BitVec.toNat same
    rw [inside] at this
    simp at this
    omega
  show unpack Format.binary64 (pack Format.binary64 _) = _
  simp only [pack, packed, full.log2_eq]
  have bits : 52 + 1 = Format.binary64.mantissaBits := rfl
  rw [if_neg (by omega), if_pos bits]
  simp only [unpack, unpackMantissa_packComponents, unpackExponent_packComponents,
    unpack_sign_eq]
  rw [if_neg finite, if_neg normal]
  simp only [full.leading_bit, inside]
  congr 1
  show (biased : Int) - ((1023 : Nat) + (52 : Nat)) = exponent
  omega

def unpackedOne : UnpackedFloat :=
  .finite .positive (2 ^ 52) (-52) (Nat.two_pow_pos 52)

theorem to_model_one : (1.0 : Float).toModel = .pack unpackedOne := by
  decide +kernel

theorem unpack_one : (1.0 : Float).toModel.unpack = unpackedOne := by
  have bits : (1.0 : Float) = Float.ofBits 0x3FF0000000000000 := by decide +kernel
  rw [bits]
  rfl

theorem FullMantissa.mul_one {mantissa : Nat} (full : FullMantissa mantissa) {exponent : Int}
    (low : -1022 ≤ exponent) :
    UnpackedFloat.mul Format.binary64 (.finite .positive mantissa exponent full.pos) unpackedOne =
      .finite .positive mantissa exponent full.pos := by
  have bits : (mantissa * 2 ^ 52).log2 = 52 + 52 :=
    log2_eq_of_bounds (by have := full.low; omega) (by have := full.high; omega)
  have shift := shift_to_target_eq bits (show -1074 ≤ exponent + -52 by omega) .exact
  have back : exponent + -52 + (52 : Nat) = exponent := by omega
  have exact_shift : ExtendedMantissa.ofMantissaAndAccuracy (mantissa * 2 ^ 52) .exact >>> 52 =
      ⟨mantissa, false, false⟩ := shift_right_exact mantissa 52
  rw [back, exact_shift] at shift
  exact round_of_full shift (by omega) full

/-- A count that is not zero and has at most fifty-three bits. -/
structure SmallCount (count : Nat) : Prop where
  pos : 0 < count
  high : count < 2 ^ 53

namespace SmallCount

variable {count : Nat}

theorem log2_le (small : SmallCount count) : count.log2 ≤ 52 :=
  Nat.le_of_lt_succ ((Nat.log2_lt (Nat.ne_of_gt small.pos)).2 small.high)

def mantissa (count : Nat) : Nat :=
  count * 2 ^ (52 - count.log2)

def exponent (count : Nat) : Int :=
  count.log2 - 52

theorem full_mantissa (small : SmallCount count) : FullMantissa (mantissa count) := by
  have few := small.log2_le
  have low : 2 ^ count.log2 ≤ count := Nat.log2_self_le (Nat.ne_of_gt small.pos)
  have high : count < 2 ^ (count.log2 + 1) := Nat.lt_log2_self
  have grown : ∀ bits, 2 ^ (bits + count.log2) * 2 ^ (52 - count.log2) = 2 ^ (bits + 52) := by
    intro bits
    rw [← Nat.pow_add]
    congr 1
    omega
  constructor
  · have scaled := Nat.mul_le_mul_right (2 ^ (52 - count.log2)) low
    have whole := grown 0
    rw [Nat.zero_add, Nat.zero_add] at whole
    rwa [whole] at scaled
  · have scaled := Nat.mul_lt_mul_of_pos_right high (Nat.two_pow_pos (52 - count.log2))
    rwa [Nat.add_comm, grown 1] at scaled

theorem exponent_low (count : Nat) : -52 ≤ exponent count := by
  rw [exponent]
  omega

theorem exponent_high (small : SmallCount count) : exponent count ≤ 0 := by
  have few := small.log2_le
  rw [exponent]
  omega

theorem unpacked_of_count (small : SmallCount count) :
    UnpackedFloat.ofNat Format.binary64 count =
      .finite .positive (mantissa count) (exponent count) small.full_mantissa.pos := by
  have few := small.log2_le
  have above : compare (count : Int) 0 = .gt := by
    rw [Int.compare_eq_gt]
    have := small.pos
    omega
  have target := target_exponent_eq count 0
  rw [Int.max_eq_left (by omega)] at target
  have amount : ((0 : Int) - (count.log2 + 0 - 52)).toNat = 52 - count.log2 := by omega
  have reached : (0 : Int) - (52 - count.log2 : Nat) = exponent count := by
    rw [exponent]
    omega
  have rounded := small.full_mantissa.round_exact .positive
    (Int.le_trans (by decide) (exponent_low count))
  simp only [UnpackedFloat.ofNat, UnpackedFloat.ofInt, UnpackedFloat.normalize, above,
    Int.toNat_natCast, UnpackedFloat.round, decreaseExponent, target, amount, reached,
    Nat.shiftLeft_eq]
  exact rounded

theorem unpack_to_float (small : SmallCount count) :
    count.toFloat.toModel.unpack =
      .finite .positive (mantissa count) (exponent count) small.full_mantissa.pos := by
  have full := small.full_mantissa
  have lowest := exponent_low count
  have highest := small.exponent_high
  have low : -1074 ≤ exponent count := by omega
  have high : exponent count ≤ 971 := by omega
  have word : count.toUInt64.toNat = count := by
    have bounded := small.high
    rw [Nat.toUInt64, UInt64.toNat_ofNat']
    exact Nat.mod_eq_of_lt (by omega)
  have written : UnpackedFloat.ofUInt64 Format.binary64 count.toUInt64 =
      .finite .positive (mantissa count) (exponent count) full.pos := by
    rw [UnpackedFloat.ofUInt64, word, small.unpacked_of_count]
  have scaled : count.toFloat = count.toUInt64.toFloat * Float.ofBits 0x3FF0000000000000 := by
    show Float.ofScientific count false 0 = _
    rw [Float.ofScientific, dif_pos ⟨small.high, Nat.zero_le _⟩]
    rfl
  have one : (Float.Model.ofBits 0x3FF0000000000000).unpack = unpackedOne := rfl
  rw [scaled]
  show (Float.Model.pack (UnpackedFloat.mul Format.binary64
    (Float.Model.pack (UnpackedFloat.ofUInt64 Format.binary64 count.toUInt64)).unpack
    (Float.Model.ofBits 0x3FF0000000000000).unpack)).unpack = _
  rw [written, full.unpack_pack _ low high, one, full.mul_one (by omega),
    full.unpack_pack _ low high]

end SmallCount

section Rounded

variable (extended : ExtendedMantissa)

theorem rounded_mantissa_bounds :
    extended.mantissa ≤ extended.roundedMantissa ∧
      extended.roundedMantissa ≤ extended.mantissa + 1 := by
  obtain ⟨mantissa, roundBit, stickyBit⟩ := extended
  cases roundBit with
  | false =>
      cases stickyBit with
      | false => exact ⟨Nat.le_refl _, Nat.le_succ _⟩
      | true => exact ⟨Nat.le_refl _, Nat.le_succ _⟩
  | true =>
      cases stickyBit with
      | false =>
          show mantissa ≤ mantissa + mantissa % 2 ∧ mantissa + mantissa % 2 ≤ mantissa + 1
          omega
      | true => exact ⟨Nat.le_succ _, Nat.le_refl _⟩

theorem rounded_mantissa_down (down : extended.roundBit = false) :
    extended.roundedMantissa = extended.mantissa := by
  obtain ⟨mantissa, roundBit, stickyBit⟩ := extended
  obtain rfl : roundBit = false := down
  cases stickyBit with
  | false => rfl
  | true => rfl

end Rounded

theorem accurate_mantissa (mantissa : Nat) (accuracy : Accuracy) :
    (ExtendedMantissa.ofMantissaAndAccuracy mantissa accuracy).mantissa = mantissa := by
  cases accuracy with
  | exact => rfl
  | inexact side =>
      cases side with
      | lt => rfl
      | eq => rfl
      | gt => rfl

theorem halved_mantissa (mantissa : Nat) (accuracy : Accuracy) :
    (ExtendedMantissa.ofMantissaAndAccuracy mantissa accuracy >>> 1).mantissa = mantissa / 2 ∧
      (ExtendedMantissa.ofMantissaAndAccuracy mantissa accuracy >>> 1).roundBit =
        (mantissa % 2 != 0) := by
  have own := accurate_mantissa mantissa accuracy
  exact ⟨congrArg (fun bits => bits / 2) own, congrArg (fun bits => bits % 2 != 0) own⟩

section Division

variable {mantissa mantissa' : Nat} {exponent exponent' : Int}

theorem div_core_eq (full : FullMantissa mantissa) (full' : FullMantissa mantissa')
    (near : -1021 ≤ exponent - exponent') :
    divCore Format.binary64 mantissa exponent mantissa' exponent' =
      (mantissa * 2 ^ 53 / mantissa', exponent - exponent' - 53,
        accuracyOfFraction (mantissa * 2 ^ 53 % mantissa') mantissa') := by
  have lowest : Format.binary64.minExponent = -1074 := rfl
  have bits : (Format.binary64.mantissaBits : Int) = 53 := rfl
  have target : min (exponent - exponent') (Format.binary64.targetExponent
      (totalExponent mantissa exponent - totalExponent mantissa' exponent')) =
        exponent - exponent' - 53 := by
    rw [Format.targetExponent, totalExponent, totalExponent, full.log2_eq, full'.log2_eq, lowest,
      bits]
    omega
  have amount : (exponent - exponent' - (exponent - exponent' - 53)).toNat = 53 := by omega
  simp only [divCore, target, amount, Nat.shiftLeft_eq]

theorem div_self_eq_one (full : FullMantissa mantissa) :
    UnpackedFloat.div Format.binary64 (.finite .positive mantissa exponent full.pos)
      (.finite .positive mantissa exponent full.pos) = unpackedOne := by
  have core := div_core_eq full full (show -1021 ≤ exponent - exponent by omega)
  rw [Nat.mul_div_cancel_left _ full.pos, Nat.mul_mod_right, Int.sub_self] at core
  have bits : (2 ^ 53).log2 = 52 + 1 := Nat.log2_two_pow
  have accurate : accuracyOfFraction 0 mantissa = .exact := if_pos rfl
  rw [accurate] at core
  have shift := shift_to_target_eq bits (show -1074 ≤ (0 : Int) - 53 by decide) .exact
  have one : FullMantissa (2 ^ 52) := ⟨Nat.le_refl _, by decide⟩
  simp only [UnpackedFloat.div, core]
  exact round_of_full shift (by decide) one

/-- A positive double below one that is not very small. -/
def BelowOne (result : UnpackedFloat) : Prop :=
  ∃ (mantissa : Nat) (exponent : Int) (full : FullMantissa mantissa),
    -1074 ≤ exponent ∧ exponent < -52 ∧ result = .finite .positive mantissa exponent full.pos

theorem round_below_one {reached : Int} {accuracy : Accuracy} {extended : ExtendedMantissa}
    (shift : shiftToTargetExponent Format.binary64 mantissa exponent accuracy = (extended, reached))
    (low : -1074 ≤ reached) (below : reached < -52)
    (full : FullMantissa extended.mantissa)
    (carry : extended.roundedMantissa = 2 ^ 53 → reached < -53) :
    BelowOne (roundWithAccuracy Format.binary64 .positive mantissa exponent accuracy) := by
  have bounds := rounded_mantissa_bounds extended
  have least := full.low
  have most := full.high
  by_cases carried : extended.roundedMantissa = 2 ^ 53
  · have one : FullMantissa (2 ^ 52) := ⟨Nat.le_refl _, by decide⟩
    have further := carry carried
    exact ⟨2 ^ 52, reached + 1, one, by omega, by omega, round_of_carry shift low carried⟩
  · have rounded : FullMantissa extended.roundedMantissa := ⟨by omega, by omega⟩
    exact ⟨_, reached, rounded, low, below, round_of_full shift low rounded⟩

/-- The quotient of a double by a greater one is below one. Where it comes closest to one it is
rounded down, or there is still a place between them. -/
theorem div_below_one (full : FullMantissa mantissa) (full' : FullMantissa mantissa')
    (near : -1000 ≤ exponent - exponent')
    (less : exponent < exponent' ∨ exponent = exponent' ∧ mantissa < mantissa') :
    BelowOne (UnpackedFloat.div Format.binary64 (.finite .positive mantissa exponent full.pos)
      (.finite .positive mantissa' exponent' full'.pos)) := by
  have core := div_core_eq full full' (show -1021 ≤ exponent - exponent' by omega)
  obtain ⟨low, high⟩ := full
  obtain ⟨low', high'⟩ := full'
  have positive : 0 < mantissa' := by omega
  have least : 2 ^ 52 ≤ mantissa * 2 ^ 53 / mantissa' := by
    rw [Nat.le_div_iff_mul_le positive]
    omega
  have most : mantissa * 2 ^ 53 / mantissa' < 2 ^ 54 - 1 := by
    rw [Nat.div_lt_iff_lt_mul positive]
    omega
  have apart : mantissa < mantissa' → mantissa * 2 ^ 53 / mantissa' < 2 ^ 53 - 1 := by
    intro smaller
    rw [Nat.div_lt_iff_lt_mul positive]
    omega
  generalize accuracyOfFraction (mantissa * 2 ^ 53 % mantissa') mantissa' = accuracy at core
  generalize mantissa * 2 ^ 53 / mantissa' = quotient at core least most apart
  simp only [UnpackedFloat.div, core]
  by_cases short : quotient < 2 ^ 53
  · -- A carry takes the greatest mantissa of all, which the quotient has only below a lower
    -- exponent.
    have fullQuotient : FullMantissa quotient := ⟨least, short⟩
    have shift := fullQuotient.shift_eq (show -1074 ≤ exponent - exponent' - 53 by omega) accuracy
    rw [← accurate_mantissa quotient accuracy] at fullQuotient
    have bounds := rounded_mantissa_bounds (.ofMantissaAndAccuracy quotient accuracy)
    rw [accurate_mantissa] at bounds
    exact round_below_one shift (by omega) (by omega) fullQuotient (by omega)
  · -- The mantissa was not smaller, so that the exponent is; the last bit is shifted out. A carry
    -- would take the greatest mantissa with that bit set, and the quotient is less.
    have bits : quotient.log2 = 52 + 1 := log2_eq_of_bounds (by omega) (by omega)
    have shift := shift_to_target_eq bits (show -1074 ≤ exponent - exponent' - 53 by omega) accuracy
    obtain ⟨halved, last⟩ := halved_mantissa quotient accuracy
    have bounds := rounded_mantissa_bounds
      (ExtendedMantissa.ofMantissaAndAccuracy quotient accuracy >>> 1)
    have down := rounded_mantissa_down
      (ExtendedMantissa.ofMantissaAndAccuracy quotient accuracy >>> 1)
    rw [halved] at bounds down
    refine round_below_one shift (by omega) (by omega) ⟨by omega, by omega⟩ ?_
    intro carried
    have even : quotient % 2 = 0 := by omega
    have kept := down (by rw [last, even]; rfl)
    omega

end Division

theorem SmallCount.less {part whole : Nat} (small : SmallCount part) (less : part < whole) :
    exponent part < exponent whole ∨
      exponent part = exponent whole ∧ mantissa part < mantissa whole := by
  have lowest : 2 ^ part.log2 ≤ whole :=
    Nat.le_trans (Nat.log2_self_le (Nat.ne_of_gt small.pos)) (Nat.le_of_lt less)
  have bits : part.log2 ≤ whole.log2 := (Nat.le_log2 (by omega)).2 lowest
  rcases Nat.lt_or_eq_of_le bits with fewer | same
  · left
    rw [exponent, exponent]
    omega
  · right
    rw [exponent, exponent, mantissa, mantissa, same]
    exact ⟨rfl, Nat.mul_lt_mul_of_pos_right less (Nat.two_pow_pos _)⟩

theorem unpack_zero : (0 : Nat).toFloat.toModel.unpack = .zero .positive := by
  have bits : (0 : Nat).toFloat = Float.ofBits 0 := by decide +kernel
  rw [bits]
  rfl

/-- The quotient of a count by one that is not less is the double one only where they are equal. -/
theorem quotient_eq_one_iff {part whole : Nat} (small : SmallCount whole) (bounded : part ≤ whole) :
    part.toFloat / whole.toFloat = 1.0 ↔ part = whole := by
  have whole_eq := small.unpack_to_float
  have full' := small.full_mantissa
  constructor
  · intro equal
    have unpacked := congrArg (fun number => number.toModel.unpack) equal
    simp only [to_model_div, unpack_one, whole_eq] at unpacked
    rcases Nat.lt_or_eq_of_le bounded with less | same
    · rcases Nat.eq_zero_or_pos part with rfl | positive
      · have zero : (Float.Model.pack (.zero .positive)).unpack = .zero .positive := rfl
        rw [unpack_zero, UnpackedFloat.div, show Sign.positive / Sign.positive = .positive from rfl,
          zero] at unpacked
        cases unpacked
      · have smallPart : SmallCount part := ⟨positive, Nat.lt_trans less small.high⟩
        have near : -1000 ≤ SmallCount.exponent part - SmallCount.exponent whole := by
          have := SmallCount.exponent_low part
          have := small.exponent_high
          omega
        obtain ⟨below, reached, full, low, high, found⟩ :=
          div_below_one smallPart.full_mantissa full' near (smallPart.less less)
        rw [smallPart.unpack_to_float, found, full.unpack_pack .positive low (by omega)] at unpacked
        cases unpacked
        omega
    · exact same
  · rintro rfl
    have equal : (part.toFloat / part.toFloat).toModel = (1.0 : Float).toModel := by
      rw [to_model_div, whole_eq, div_self_eq_one full', to_model_one]
    exact congrArg Float.ofModel equal

end Resemblance
