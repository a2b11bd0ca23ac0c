import Mathlib
import Resemblance.Proofs.CompositeSum

/-!
Doubles that stand for the same number. Only zero is stood for by more than one double, and its sign
is lost in sums and differences and does not turn a quotient into another number. So the same
numbers have the same means, as long as these are numbers at all; and they are, since of two numbers
that are added here one is always finite.
-/

namespace Resemblance

open Float.Model (Format UnpackedFloat)
open Float.Model.UnpackedFloat

/-- Unpacked doubles that differ in the sign of a zero at most. -/
inductive Indistinct : UnpackedFloat → UnpackedFloat → Prop
  | same (unpacked : UnpackedFloat) : Indistinct unpacked unpacked
  | zeros (sign sign' : Sign) : Indistinct (.zero sign) (.zero sign')

section Indistinct

variable {format : Format} {unpacked unpacked' unpacked'' other other' : UnpackedFloat}

theorem Indistinct.symm (indistinct : Indistinct unpacked unpacked') :
    Indistinct unpacked' unpacked := by
  cases indistinct with
  | same => exact .same _
  | zeros sign sign' => exact .zeros sign' sign

theorem Indistinct.trans (indistinct : Indistinct unpacked unpacked')
    (indistinct' : Indistinct unpacked' unpacked'') :
    Indistinct unpacked unpacked'' := by
  cases indistinct with
  | same => exact indistinct'
  | zeros sign sign' =>
      cases indistinct' with
      | same => exact .zeros sign sign'
      | zeros _ sign'' => exact .zeros sign sign''

theorem zero_add_indistinct (sign : Sign) (unpacked : UnpackedFloat) :
    Indistinct (UnpackedFloat.add format (.zero sign) unpacked) unpacked := by
  cases unpacked with
  | notANumber => exact .same _
  | infinity sign' => exact .same _
  | zero sign' =>
      show Indistinct (if sign == sign' then .zero sign else .zero .positive) (.zero sign')
      split
      · exact .zeros _ _
      · exact .zeros _ _
  | finite sign' mantissa exponent positive => exact .same _

theorem add_zero_indistinct (unpacked : UnpackedFloat) (sign : Sign) :
    Indistinct (unpacked.add format (.zero sign)) unpacked := by
  cases unpacked with
  | notANumber => exact .same _
  | infinity sign' => exact .same _
  | zero sign' =>
      show Indistinct (if sign' == sign then .zero sign' else .zero .positive) (.zero sign')
      split
      · exact .zeros _ _
      · exact .zeros _ _
  | finite sign' mantissa exponent positive => exact .same _

theorem Indistinct.add (indistinct : Indistinct unpacked unpacked')
    (indistinct' : Indistinct other other') :
    Indistinct (unpacked.add format other) (unpacked'.add format other') := by
  cases indistinct with
  | same =>
      cases indistinct' with
      | same => exact .same _
      | zeros sign sign' =>
          exact (add_zero_indistinct unpacked sign).trans (add_zero_indistinct unpacked sign').symm
  | zeros sign sign' =>
      exact ((zero_add_indistinct sign other).trans indistinct').trans
        (zero_add_indistinct sign' other').symm

theorem Indistinct.neg (indistinct : Indistinct unpacked unpacked') :
    Indistinct unpacked.neg unpacked'.neg := by
  cases indistinct with
  | same => exact .same _
  | zeros sign sign' => exact .zeros _ _

theorem unpacked_sub_eq_add_neg (unpacked other : UnpackedFloat) :
    unpacked.sub format other = unpacked.add format other.neg := by
  cases unpacked with
  | notANumber => cases other <;> rfl
  | infinity sign => cases other <;> rfl
  | zero sign => cases other <;> rfl
  | finite sign mantissa exponent positive =>
      cases other with
      | notANumber => rfl
      | infinity sign' => rfl
      | zero sign' => rfl
      | finite sign' mantissa' exponent' positive' =>
          have opposite (size : Int) : (-sign').apply size = -sign'.apply size := by
            cases sign' with
            | negative => exact (neg_neg size).symm
            | positive => rfl
          simp only [UnpackedFloat.sub, UnpackedFloat.add, UnpackedFloat.neg, opposite,
            sub_eq_add_neg]

theorem Indistinct.sub (indistinct : Indistinct unpacked unpacked')
    (indistinct' : Indistinct other other') :
    Indistinct (unpacked.sub format other) (unpacked'.sub format other') := by
  rw [unpacked_sub_eq_add_neg, unpacked_sub_eq_add_neg]
  exact indistinct.add indistinct'.neg

/-- The sign of a zero does not count in a dividend; in a divisor it does. -/
theorem Indistinct.div (indistinct : Indistinct unpacked unpacked') (other : UnpackedFloat) :
    Indistinct (unpacked.div format other) (unpacked'.div format other) := by
  cases indistinct with
  | same => exact .same _
  | zeros sign sign' =>
      cases other with
      | notANumber => exact .same _
      | infinity own => exact .zeros _ _
      | zero own => exact .same _
      | finite own mantissa exponent positive => exact .zeros _ _

theorem Indistinct.pack (indistinct : Indistinct unpacked unpacked') :
    Indistinct (Float.Model.pack unpacked).unpack (Float.Model.pack unpacked').unpack := by
  cases indistinct with
  | same => exact .same _
  | zeros sign sign' =>
      rw [unpack_pack_zero, unpack_pack_zero]
      exact .zeros sign sign'

theorem indistinct_of_compare (equal : unpacked.compare other = some .eq) :
    Indistinct unpacked other := by
  have parts {e f : Int} {m n : Nat} (equal : (compare e f).then (compare m n) = .eq) : e =
      f ∧ m = n := by
    rwa [Ordering.then_eq_eq, compare_eq_iff_eq, compare_eq_iff_eq] at equal
  cases unpacked with
  | notANumber => exact absurd equal nofun
  | infinity sign =>
      cases other with
      | notANumber => cases sign <;> exact absurd equal nofun
      | infinity sign' =>
          cases sign with
          | negative =>
              cases sign' with
              | negative => exact .same _
              | positive => exact absurd equal nofun
          | positive =>
              cases sign' with
              | negative => exact absurd equal nofun
              | positive => exact .same _
      | zero sign' => cases sign <;> exact absurd equal nofun
      | finite sign' mantissa exponent positive => cases sign <;> exact absurd equal nofun
  | zero sign =>
      cases other with
      | notANumber => exact absurd equal nofun
      | infinity sign' => cases sign' <;> exact absurd equal nofun
      | zero sign' => exact .zeros sign sign'
      | finite sign' mantissa exponent positive => cases sign' <;> exact absurd equal nofun
  | finite sign mantissa exponent positive =>
      cases other with
      | notANumber => cases sign <;> exact absurd equal nofun
      | infinity sign' => cases sign <;> cases sign' <;> exact absurd equal nofun
      | zero sign' => cases sign <;> exact absurd equal nofun
      | finite sign' mantissa' exponent' positive' =>
          cases sign with
          | negative =>
              cases sign' with
              | negative =>
                  obtain ⟨rfl, rfl⟩ := parts (Ordering.swap_eq_eq.1 (Option.some.inj equal))
                  exact .same _
              | positive => exact absurd equal nofun
          | positive =>
              cases sign' with
              | negative => exact absurd equal nofun
              | positive =>
                  obtain ⟨rfl, rfl⟩ := parts (Option.some.inj equal)
                  exact .same _

end Indistinct

/-- Doubles that stand for the same number, as zeros of either sign do. -/
def SameNumber (x y : Float) : Prop :=
  ∃ value, Valued x value ∧ Valued y value

section Same

variable {x x' y y' z : Float}

theorem Valued.unique {value value' : EReal} (valued : Valued x value) (valued' : Valued x value') :
    value = value' :=
  (valued.beq_iff valued').1 ((valued.beq_iff valued).2 rfl)

theorem SameNumber.symm (same : SameNumber x y) : SameNumber y x := by
  obtain ⟨value, valued, valued'⟩ := same
  exact ⟨value, valued', valued⟩

theorem SameNumber.trans (same : SameNumber x y) (same' : SameNumber y z) : SameNumber x z := by
  obtain ⟨value, valued, between⟩ := same
  obtain ⟨value', between', valued'⟩ := same'
  obtain rfl := between.unique between'
  exact ⟨value, valued, valued'⟩

theorem beq_iff_compare : (x == y) = true ↔
    x.toModel.unpack.compare y.toModel.unpack = some .eq := by
  show (x.toModel.unpack.compare y.toModel.unpack == some .eq) = true ↔ _
  exact beq_iff_eq

theorem SameNumber.beq (same : SameNumber x y) : (x == y) = true := by
  obtain ⟨value, valued, valued'⟩ := same
  exact (valued.beq_iff valued').2 rfl

theorem SameNumber.indistinct (same : SameNumber x y) :
    Indistinct x.toModel.unpack y.toModel.unpack :=
  indistinct_of_compare (beq_iff_compare.1 same.beq)

theorem same_of_indistinct (indistinct : Indistinct x.toModel.unpack y.toModel.unpack)
    (number : x.toModel.unpack ≠ .notANumber) : SameNumber x y := by
  obtain ⟨value, valued⟩ := number_valued number
  refine ⟨value, valued, ?_⟩
  unfold Valued at *
  generalize x.toModel.unpack = unpacked at indistinct valued
  generalize y.toModel.unpack = unpacked' at indistinct
  cases indistinct with
  | same => exact valued
  | zeros sign sign' =>
      cases valued with
      | zero => exact .zero sign'

theorem beq_iff_same : (x == y) = true ↔ SameNumber x y := by
  refine ⟨fun equal => ?_, SameNumber.beq⟩
  rw [beq_iff_compare] at equal
  refine same_of_indistinct (indistinct_of_compare equal) fun none => ?_
  rw [none] at equal
  exact absurd equal nofun

theorem SameNumber.add (same : SameNumber x x') (same' : SameNumber y y')
    (number : (x + y).toModel.unpack ≠ .notANumber) : SameNumber (x + y) (x' + y') :=
  same_of_indistinct (same.indistinct.add same'.indistinct).pack number

theorem SameNumber.complement (same : SameNumber x x')
    (number : (1.0 - x).toModel.unpack ≠ .notANumber) :
    SameNumber (1.0 - x) (1.0 - x') :=
  same_of_indistinct ((Indistinct.same _).sub same.indistinct).pack number

theorem SameNumber.div (same : SameNumber x x') (number : (x / y).toModel.unpack ≠ .notANumber) :
    SameNumber (x / y) (x' / y) :=
  same_of_indistinct (same.indistinct.div _).pack number

theorem SameNumber.clamp (same : SameNumber x y) : SameNumber (clampUnit x) (clampUnit y) := by
  obtain ⟨value, valued, valued'⟩ := same
  have low : x < (0 : Nat).toFloat ↔ y < (0 : Nat).toFloat :=
    (valued.lt_iff worth_zero.valued).trans (valued'.lt_iff worth_zero.valued).symm
  have high : (1 : Nat).toFloat < x ↔ (1 : Nat).toFloat < y :=
    (worth_one.valued.lt_iff valued).trans (worth_one.valued.lt_iff valued').symm
  show SameNumber
    (if decide (x < (0 : Nat).toFloat) then (0 : Nat).toFloat
      else if decide ((1 : Nat).toFloat < x) then (1 : Nat).toFloat else x)
    (if decide (y < (0 : Nat).toFloat) then (0 : Nat).toFloat
      else if decide ((1 : Nat).toFloat < y) then (1 : Nat).toFloat else y)
  simp only [low, high]
  split
  · exact ⟨_, worth_zero.valued, worth_zero.valued⟩
  · split
    · exact ⟨_, worth_one.valued, worth_one.valued⟩
    · exact ⟨value, valued, valued'⟩

end Same

section Numbers

variable {x y : Float} {sign sign' : Sign} {number number' : ℝ} {unpacked unpacked' : UnpackedFloat}

theorem worth_of_is_finite (finite : x.isFinite = true) : ∃ sign number, Worth sign x number := by
  have known : x.toModel.unpack.isFinite = true := finite
  have some : x.toModel.unpack ≠ .notANumber := by
    intro none
    rw [none] at known
    cases known
  obtain ⟨sign, worth | great⟩ := number_sided some
  · exact ⟨sign, worth⟩
  · rw [great] at known
    cases known

theorem SameNumber.of_finite (finite : x.isFinite = true) : SameNumber x x := by
  obtain ⟨sign, number, worth⟩ := worth_of_is_finite finite
  exact same_of_indistinct (.same _) worth.sided.is_number

theorem Means.add_finite (means : Means sign number unpacked)
    (means' : Means sign' number' unpacked') :
    ∃ own, signed own |signed sign number + signed sign' number'| =
      signed sign number + signed sign' number' ∧
      Rounds own |signed sign number +
        signed sign' number'| (unpacked.add Format.binary64 unpacked') := by
  cases means with
  | zero own =>
      rw [signed_zero, zero_add]
      cases means' with
      | zero own' =>
          rw [signed_zero, abs_zero]
          refine ⟨.positive, rfl, ?_⟩
          show Rounds .positive 0 (if own == own' then .zero own else .zero .positive)
          split
          · exact rounds_zero rfl
          · exact rounds_zero rfl
      | finite mantissa exponent positive canonical =>
          rw [abs_signed _ (size_pos positive exponent).le]
          exact ⟨sign', rfl, (Means.finite _ _ _ canonical).rounds⟩
  | finite mantissa exponent positive canonical =>
      cases means' with
      | zero own' =>
          rw [signed_zero, add_zero, abs_signed _ (size_pos positive exponent).le]
          exact ⟨sign, rfl, (Means.finite _ _ _ canonical).rounds⟩
      | finite mantissa' exponent' positive' canonical' =>
          have rounds (whole : Int) (unit : Int) : ∃ own,
              signed own |(whole : ℝ) * 2 ^ unit| = whole * 2 ^ unit ∧
              Rounds own |(whole : ℝ) * 2 ^ unit|
                (UnpackedFloat.normalize Format.binary64 whole unit .positive) := by
            have least : (0 : ℝ) ≤ 2 ^ unit := by positivity
            rcases le_total 0 whole with more | less
            · have cast : (0 : ℝ) ≤ whole := by exact_mod_cast more
              rw [abs_of_nonneg (mul_nonneg cast least)]
              exact ⟨.positive, rfl, (normalize_rounds whole unit).1 more⟩
            · have cast : (whole : ℝ) ≤ 0 := by exact_mod_cast less
              rw [abs_of_nonpos (mul_nonpos_of_nonpos_of_nonneg cast least)]
              exact ⟨.negative, neg_neg _, (normalize_rounds whole unit).2 less⟩
          rw [signed_units (min_le_left exponent exponent') sign,
            signed_units (min_le_right exponent exponent') sign', ← add_mul, ← Int.cast_add]
          exact rounds _ _

theorem Sided.add_finite (sided : Sided sign x) (finite : y.isFinite = true) :
    ∃ own, Sided own (x + y) := by
  obtain ⟨sign', number', worth'⟩ := worth_of_is_finite finite
  rcases sided with ⟨number, worth⟩ | great
  · obtain ⟨own, -, rounds⟩ := Means.add_finite worth worth'
    exact ⟨own, (rounds.computes rfl).sided⟩
  · exact ⟨sign, .inr (worth'.infinity_add great)⟩

/-- The greatest finite numbers leave a gap below what is too great for a double. -/
theorem Worth.le_greatest (worth : Worth sign x number) : number ≤ 2 ^ 1024 - 2 ^ 971 := by
  have bounded := @unpack_exponent_le sign x.toBits.toBitVec
  unfold Worth at worth
  generalize found : x.toModel.unpack = unpacked at worth
  cases worth with
  | zero own => exact sub_nonneg.2 (pow_le_pow_right₀ one_le_two (by norm_num))
  | finite mantissa exponent positive canonical =>
      have most : (mantissa : ℝ) + 1 ≤ 2 ^ 53 := by exact_mod_cast canonical.short
      calc (mantissa : ℝ) * 2 ^ exponent ≤ (2 ^ 53 - 1) * 2 ^ (971 : Int) :=
            mul_le_mul (by linarith) (zpow_le_zpow_right₀ one_le_two (bounded found))
              (by positivity) (by norm_num)
        _ = 2 ^ 1024 - 2 ^ 971 := by
            rw [show (971 : Int) = (971 : Nat) from rfl, zpow_natCast, sub_one_mul, ← pow_add]

theorem Means.neg (means : Means sign number unpacked) : Means (-sign) number unpacked.neg := by
  cases means with
  | zero own => exact .zero _
  | finite mantissa exponent positive canonical =>
      exact .finite mantissa exponent positive canonical

theorem Worth.sub_opposite (worth : Worth .positive x number) (worth' : Worth .negative y number') :
    Computes .positive (number + number') (x - y) := by
  have packed : (x - y).toModel = Float.Model.pack
      (x.toModel.unpack.add Format.binary64 y.toModel.unpack.neg) :=
    congrArg Float.Model.pack (unpacked_sub_eq_add_neg _ _)
  exact (Means.add worth (Means.neg worth')).computes packed

/-- What is left of one after something finite is finite; no finite number is so great that one more
would matter. -/
theorem complement_finite (finite : x.isFinite = true) : (1.0 - x).isFinite = true := by
  obtain ⟨sign, number, worth⟩ := worth_of_is_finite finite
  cases sign with
  | positive =>
      rcases le_total number 1 with less | more
      · obtain ⟨rest, worth', -⟩ := (worth_literal_one.sub worth less).nearest
          ((sub_le_self 1 worth.nonneg).trans (one_le_pow₀ one_le_two))
        exact worth'.finite
      · obtain ⟨rounded, nearest, ⟨-, worth'⟩ | ⟨great, -⟩⟩ :=
          worth_literal_one.sub_negative worth more
        · exact worth'.finite
        · have low := nearest.le_of_le worth.representable (sub_le_self number zero_le_one)
          exact absurd (le_trans great low) worth.not_excessive
  | negative =>
      obtain ⟨rounded, nearest, ⟨-, worth'⟩ | ⟨great, -⟩⟩ := worth_literal_one.sub_opposite worth
      · exact worth'.finite
      · have close := nearest.closest number worth.representable
        rw [sub_add_cancel_right, abs_neg, abs_one] at close
        have wide : (2 : ℝ) < 2 ^ 971 := by
          calc (2 : ℝ) < 2 ^ 2 := by norm_num
            _ ≤ 2 ^ 971 := pow_le_pow_right₀ one_le_two (by norm_num)
        have most := worth.le_greatest
        have above := (abs_le.1 close).2
        unfold Excessive at great
        generalize (2 : ℝ) ^ 1024 = bound at great most
        generalize (2 : ℝ) ^ 971 = gap at wide most
        linarith

end Numbers

end Resemblance
