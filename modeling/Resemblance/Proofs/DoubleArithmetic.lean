import Mathlib
import Resemblance.Proofs.NearestDouble

/-!
The arithmetic of doubles, as far as it concerns numbers of known sign. Sum, difference, product,
quotient and square root are nearest doubles of the exact results; and where a result is too great
for a double it is the infinity of its sign.
-/

namespace Resemblance

open Float.Model (Format UnpackedFloat totalExponent)
open Float.Model.UnpackedFloat

/-- What stands for a nearest double of a number that is not negative, with the given sign before
it. -/
def Rounds (sign : Sign) (exact : ℝ) (unpacked : UnpackedFloat) : Prop :=
  ∃ rounded, Means sign rounded unpacked ∧ Nearest exact rounded

theorem rounds_zero {sign own : Sign} {exact : ℝ} (nothing : exact = 0) :
    Rounds sign exact (.zero own) := by
  rw [nothing]
  exact ⟨0, .zero own, representable_zero.nearest⟩

theorem Means.rounds {sign : Sign} {number : ℝ} {unpacked : UnpackedFloat}
    (means : Means sign number unpacked) : Rounds sign number unpacked :=
  ⟨number, means, means.representable.nearest⟩

theorem Means.nonneg {sign : Sign} {number : ℝ} {unpacked : UnpackedFloat}
    (means : Means sign number unpacked) : 0 ≤ number := by
  obtain ⟨mantissa, exponent, -, -, rfl⟩ := means.representable
  positivity

theorem size_pos {mantissa : Nat} (positive : 0 < mantissa) (exponent : Int) :
    (0 : ℝ) < mantissa * 2 ^ exponent := by
  have cast : (0 : ℝ) < mantissa := by exact_mod_cast positive
  positivity

theorem rounds_exact {mantissa : Nat} {exponent : Int}
    (enough : 2 ^ 52 ≤ mantissa ∨ exponent ≤ -1074)
    (sign : Sign) :
    Rounds sign (mantissa * 2 ^ exponent)
      (roundWithAccuracy Format.binary64 sign mantissa exponent .exact) := by
  have tracks : Tracks (mantissa : ℝ) (.ofMantissaAndAccuracy mantissa .exact) := rfl
  exact round_nearest tracks enough sign

section Operations

variable {sign sign' : Sign} {number number' : ℝ} {unpacked unpacked' : UnpackedFloat}

theorem Means.mul (means : Means sign number unpacked) (means' : Means sign' number' unpacked') :
    Rounds (sign * sign') (number * number') (unpacked.mul Format.binary64 unpacked') := by
  cases means with
  | zero own =>
      have nothing : 0 * number' = 0 := zero_mul number'
      cases means' with
      | zero own' => exact rounds_zero nothing
      | finite mantissa' exponent' positive' canonical' => exact rounds_zero nothing
  | finite mantissa exponent positive canonical =>
      cases means' with
      | zero own' => exact rounds_zero (mul_zero _)
      | finite mantissa' exponent' positive' canonical' =>
          have enough : 2 ^ 52 ≤ mantissa * mantissa' ∨ exponent + exponent' ≤ -1074 := by
            rcases canonical.full with full | lowest
            · exact .inl (full.trans (Nat.le_mul_of_pos_right _ positive'))
            · rcases canonical'.full with full' | lowest'
              · exact .inl (full'.trans (Nat.le_mul_of_pos_left _ positive))
              · exact .inr (by omega)
          rw [mul_mul_mul_comm, ← Nat.cast_mul, ← zpow_add₀ two_ne_zero]
          exact rounds_exact enough (sign * sign')

/-- The rest of a division decides on which side of the middle the quotient lies. -/
theorem fraction_tracks {num den : Nat} (positive : 0 < den) :
    Tracks ((num : ℝ) / den)
      (.ofMantissaAndAccuracy (num / den) (accuracyOfFraction (num % den) den)) := by
  have split : (den : ℝ) * (num / den : Nat) + (num % den : Nat) = num := by
    exact_mod_cast Nat.div_add_mod num den
  have below := Nat.mod_lt num positive
  have least : (0 : ℝ) < den := by exact_mod_cast positive
  generalize num / den = quotient at split
  generalize num % den = rest at split below
  have place : (num : ℝ) / den = quotient + rest / den := by
    field_simp
    linarith
  rw [place]
  unfold accuracyOfFraction
  split
  next nothing =>
    subst nothing
    show (quotient : ℝ) + (0 : Nat) / den = quotient
    simp
  next some =>
    have apart : (0 : ℝ) < rest / den :=
      div_pos (by exact_mod_cast Nat.pos_of_ne_zero some) least
    have inside : (rest : ℝ) / den < 1 := by
      rw [div_lt_one least]
      exact_mod_cast below
    rcases lt_trichotomy (2 * rest) den with less | same | more
    · rw [Nat.compare_eq_lt.2 less]
      have half : (rest : ℝ) / den < 1 / 2 := by
        have cast : 2 * (rest : ℝ) < den := by exact_mod_cast less
        rw [div_lt_div_iff₀ least two_pos]
        linarith
      exact ⟨by linarith, by linarith⟩
    · rw [Nat.compare_eq_eq.2 same]
      have half : (rest : ℝ) / den = 1 / 2 := by
        have cast : 2 * (rest : ℝ) = den := by exact_mod_cast same
        rw [div_eq_div_iff least.ne' two_ne_zero]
        linarith
      show (quotient : ℝ) + rest / den = quotient + 1 / 2
      rw [half]
    · rw [Nat.compare_eq_gt.2 more]
      have half : 1 / 2 < (rest : ℝ) / den := by
        have cast : (den : ℝ) < 2 * rest := by exact_mod_cast more
        rw [div_lt_div_iff₀ two_pos least]
        linarith
      exact ⟨by linarith, by linarith⟩

theorem div_core_rounds {mantissa mantissa' : Nat} {exponent exponent' : Int} (some : 0 < mantissa)
    (positive : 0 < mantissa') (sign : Sign) :
    let core := divCore Format.binary64 mantissa exponent mantissa' exponent'
    Rounds sign (mantissa * 2 ^ exponent / (mantissa' * 2 ^ exponent'))
      (roundWithAccuracy Format.binary64 sign core.1 core.2.1 core.2.2) := by
  intro core
  let wanted := Format.binary64.targetExponent
    (totalExponent mantissa exponent - totalExponent mantissa' exponent')
  let target := min (exponent - exponent') wanted
  let amount := (exponent - exponent' - target).toNat
  have named : core = (mantissa <<< amount / mantissa', target,
      accuracyOfFraction (mantissa <<< amount % mantissa') mantissa') := rfl
  have goal : wanted = max ((mantissa.log2 + 1 + exponent) - (mantissa'.log2 + 1 + exponent') - 53)
      (-1074) :=
    rfl
  have shifted : (amount : Int) = exponent - exponent' - target := Int.toNat_of_nonneg (by omega)
  have enough : 2 ^ 52 ≤ mantissa <<< amount / mantissa' ∨ target ≤ -1074 := by
    by_cases lowest : target ≤ -1074
    · exact .inr lowest
    · left
      have low : 2 ^ mantissa.log2 ≤ mantissa := Nat.log2_self_le some.ne'
      have high : mantissa' < 2 ^ (mantissa'.log2 + 1) := Nat.lt_log2_self
      rw [Nat.le_div_iff_mul_le positive, Nat.shiftLeft_eq]
      calc 2 ^ 52 * mantissa' ≤ 2 ^ 52 * 2 ^ (mantissa'.log2 + 1) := Nat.mul_le_mul_left _ high.le
        _ = 2 ^ (mantissa'.log2 + 53) := by rw [← Nat.pow_add]; congr 1; omega
        _ ≤ 2 ^ (mantissa.log2 + amount) := Nat.pow_le_pow_right two_pos (by omega)
        _ = 2 ^ mantissa.log2 * 2 ^ amount := Nat.pow_add 2 _ _
        _ ≤ mantissa * 2 ^ amount := Nat.mul_le_mul_right _ low
  have tracks : Tracks (((mantissa <<< amount : Nat) : ℝ) / mantissa') _ := fraction_tracks positive
  have rounds := round_nearest tracks enough sign
  rw [named]
  have same : (mantissa : ℝ) * 2 ^ exponent / (mantissa' * 2 ^ exponent') =
      ((mantissa <<< amount : Nat) : ℝ) / mantissa' * 2 ^ target := by
    have least : (mantissa' : ℝ) ≠ 0 := by exact_mod_cast positive.ne'
    rw [Nat.shiftLeft_eq, show exponent = amount + target + exponent' by omega,
      zpow_add₀ two_ne_zero, zpow_add₀ two_ne_zero, zpow_natCast]
    push_cast
    field_simp
  rw [same]
  exact rounds

theorem Means.div (means : Means sign number unpacked) (means' : Means sign' number' unpacked')
    (positive : 0 < number') :
    Rounds (sign / sign') (number / number') (unpacked.div Format.binary64 unpacked') := by
  cases means' with
  | zero own' => exact absurd positive (lt_irrefl 0)
  | finite mantissa' exponent' positive' canonical' =>
      cases means with
      | zero own => exact rounds_zero (zero_div _)
      | finite mantissa exponent some canonical =>
          exact div_core_rounds some positive' (sign / sign')

/-- The rest of a square root decides on which side of the middle the root lies; it is never the
middle itself. -/
theorem root_tracks (square : Nat) :
    Tracks (√square) (.ofMantissaAndAccuracy (Nat.sqrt square)
      (if square - Nat.sqrt square * Nat.sqrt square = 0 then .exact
        else .inexact (if square - Nat.sqrt square * Nat.sqrt square ≤ Nat.sqrt square then .lt
          else .gt))) := by
  have low : Nat.sqrt square * Nat.sqrt square ≤ square := Nat.sqrt_le square
  have high : square ≤ Nat.sqrt square * Nat.sqrt square + Nat.sqrt square + Nat.sqrt square :=
    Nat.sqrt_le_add square
  generalize Nat.sqrt square = root at low high
  obtain ⟨rest, rfl⟩ := Nat.exists_eq_add_of_le low
  rw [Nat.add_sub_cancel_left]
  have least : (0 : ℝ) ≤ root := Nat.cast_nonneg _
  split
  next nothing =>
    subst nothing
    show √((root * root + 0 : Nat) : ℝ) = root
    rw [Nat.add_zero, Nat.cast_mul, Real.sqrt_mul_self least]
  next some =>
    have apart : (1 : ℝ) ≤ rest := by exact_mod_cast Nat.pos_of_ne_zero some
    push_cast
    split
    next less =>
      have cast : (rest : ℝ) ≤ root := by exact_mod_cast less
      show (root : ℝ) < √(root * root + rest) ∧ √(root * root + rest) < root + 1 / 2
      constructor
      · exact Real.lt_sqrt_of_sq_lt (by nlinarith)
      · rw [Real.sqrt_lt' (by linarith)]
        nlinarith
    next more =>
      have cast : (root : ℝ) + 1 ≤ rest := by exact_mod_cast Nat.lt_of_not_le more
      have most : (rest : ℝ) ≤ root + root := by exact_mod_cast (by omega : rest ≤ root + root)
      show (root : ℝ) + 1 / 2 < √(root * root + rest) ∧ √(root * root + rest) < root + 1
      constructor
      · exact Real.lt_sqrt_of_sq_lt (by nlinarith)
      · rw [Real.sqrt_lt' (by linarith)]
        nlinarith

theorem sqrt_core_rounds {mantissa : Nat} {exponent : Int} (positive : 0 < mantissa) :
    let core := sqrtCore Format.binary64 mantissa exponent
    Rounds .positive (√(mantissa * 2 ^ exponent))
      (roundWithAccuracy Format.binary64 .positive core.1 core.2.1 core.2.2) := by
  intro core
  let wanted := Format.binary64.targetExponent ((totalExponent mantissa exponent + 1).ediv 2)
  let target := min (exponent.ediv 2) wanted
  let amount := (exponent - 2 * target).toNat
  have halved : exponent.ediv 2 = exponent / 2 := rfl
  have goal : wanted = max ((mantissa.log2 + 1 + exponent + 1) / 2 - 53) (-1074) := rfl
  have shifted : (amount : Int) = exponent - 2 * target := Int.toNat_of_nonneg (by omega)
  have enough : 2 ^ 52 ≤ Nat.sqrt (mantissa <<< amount) ∨ target ≤ -1074 := by
    by_cases lowest : target ≤ -1074
    · exact .inr lowest
    · left
      have low : 2 ^ mantissa.log2 ≤ mantissa := Nat.log2_self_le positive.ne'
      rw [Nat.le_sqrt, Nat.shiftLeft_eq]
      calc 2 ^ 52 * 2 ^ 52 = 2 ^ 104 := by norm_num
        _ ≤ 2 ^ (mantissa.log2 + amount) := Nat.pow_le_pow_right two_pos (by omega)
        _ = 2 ^ mantissa.log2 * 2 ^ amount := Nat.pow_add 2 _ _
        _ ≤ mantissa * 2 ^ amount := Nat.mul_le_mul_right _ low
  have rounds := round_nearest (root_tracks (mantissa <<< amount)) enough .positive
  have same : √((mantissa : ℝ) * 2 ^ exponent) =
      √((mantissa <<< amount : Nat) : ℝ) * 2 ^ target := by
    have unit : (0 : ℝ) ≤ 2 ^ target := by positivity
    rw [Nat.shiftLeft_eq, show exponent = amount + (target + target) by omega,
      zpow_add₀ two_ne_zero, zpow_add₀ two_ne_zero, zpow_natCast, ← mul_assoc,
      Real.sqrt_mul (by positivity), Real.sqrt_mul_self unit]
    push_cast
    rfl
  rw [same]
  exact rounds

theorem Means.sqrt (means : Means .positive number unpacked) :
    Rounds .positive (√number) (unpacked.sqrt Format.binary64) := by
  cases means with
  | zero own => exact rounds_zero Real.sqrt_zero
  | finite mantissa exponent positive canonical => exact sqrt_core_rounds positive

theorem decrease_exponent_eq (mantissa : Nat) {exponent target : Int} (low : target ≤ exponent) :
    (((mantissa <<< (exponent - target).toNat : Nat) : Int) : ℝ) * 2 ^ target =
      mantissa * 2 ^ exponent := by
  obtain ⟨count, rfl⟩ := Int.exists_add_of_le low
  rw [show (target + (count : Int) - target).toNat = count by omega, Nat.shiftLeft_eq,
    zpow_add₀ two_ne_zero, zpow_natCast]
  push_cast
  ring

theorem round_rounds {mantissa : Nat} (positive : 0 < mantissa) (exponent : Int) (sign : Sign) :
    Rounds sign (mantissa * 2 ^ exponent)
      (UnpackedFloat.round Format.binary64 sign mantissa exponent) := by
  let target := Format.binary64.targetExponent (totalExponent mantissa exponent)
  let amount := (exponent - target).toNat
  have goal : target = max (mantissa.log2 + exponent - 52) (-1074) :=
    target_exponent_eq mantissa exponent
  have enough : 2 ^ 52 ≤ mantissa <<< amount ∨ exponent - amount ≤ -1074 := by
    by_cases lowest : exponent - amount ≤ -1074
    · exact .inr lowest
    · left
      rw [Nat.shiftLeft_eq]
      calc 2 ^ 52 ≤ 2 ^ (mantissa.log2 + amount) := Nat.pow_le_pow_right two_pos (by omega)
        _ = 2 ^ mantissa.log2 * 2 ^ amount := Nat.pow_add 2 _ _
        _ ≤ mantissa * 2 ^ amount := Nat.mul_le_mul_right _ (Nat.log2_self_le positive.ne')
  have rounds := rounds_exact enough sign
  have same : ((mantissa <<< amount : Nat) : ℝ) * 2 ^ (exponent - amount) =
      mantissa * 2 ^ exponent := by
    rw [Nat.shiftLeft_eq, zpow_sub₀ two_ne_zero, zpow_natCast]
    push_cast
    field_simp
  rwa [same] at rounds

/-- A whole number of units has the sign of the number. -/
theorem normalize_rounds (whole exponent : Int) :
    (0 ≤ whole → Rounds .positive (whole * 2 ^ exponent)
        (UnpackedFloat.normalize Format.binary64 whole exponent .positive)) ∧
      (whole ≤ 0 → Rounds .negative (-(whole * 2 ^ exponent))
        (UnpackedFloat.normalize Format.binary64 whole exponent .positive)) := by
  unfold UnpackedFloat.normalize
  rcases lt_trichotomy whole 0 with less | rfl | more
  · rw [Int.compare_eq_lt.2 less]
    constructor
    · intro positive
      omega
    · intro _
      have size : ((-whole).toNat : ℝ) = -whole := by
        exact_mod_cast Int.toNat_of_nonneg (by omega : 0 ≤ -whole)
      have rounds := round_rounds (by omega : 0 < (-whole).toNat) exponent .negative
      rwa [size, neg_mul] at rounds
  · rw [Int.compare_eq_eq.2 rfl]
    constructor
    · intro _
      exact rounds_zero (by simp)
    · intro _
      exact rounds_zero (by simp)
  · rw [Int.compare_eq_gt.2 more]
    constructor
    · intro _
      have size : (whole.toNat : ℝ) = whole := by
        exact_mod_cast Int.toNat_of_nonneg more.le
      have rounds := round_rounds (by omega : 0 < whole.toNat) exponent .positive
      rwa [size] at rounds
    · intro negative
      omega

theorem Means.add (means : Means sign number unpacked) (means' : Means sign number' unpacked') :
    Rounds sign (number + number') (unpacked.add Format.binary64 unpacked') := by
  cases means with
  | zero own =>
      rw [zero_add]
      cases means' with
      | zero own' =>
          show Rounds sign 0 (if own == own' then .zero own else .zero .positive)
          split
          · exact rounds_zero rfl
          · exact rounds_zero rfl
      | finite mantissa' exponent' positive' canonical' =>
          exact (Means.finite _ _ _ canonical').rounds
  | finite mantissa exponent positive canonical =>
      cases means' with
      | zero own' =>
          rw [add_zero]
          exact (Means.finite _ _ _ canonical).rounds
      | finite mantissa' exponent' positive' canonical' =>
          have value := decrease_exponent_eq mantissa (min_le_left exponent exponent')
          have value' := decrease_exponent_eq mantissa' (min_le_right exponent exponent')
          show Rounds sign _ (UnpackedFloat.normalize Format.binary64
            (sign.apply (mantissa <<< (exponent - min exponent exponent').toNat : Nat) +
              sign.apply (mantissa' <<< (exponent' - min exponent exponent').toNat : Nat))
            (min exponent exponent') .positive)
          rw [← value, ← value', ← add_mul, ← Int.cast_add]
          generalize mantissa <<< (exponent - min exponent exponent').toNat = first
          generalize mantissa' <<< (exponent' - min exponent exponent').toNat = second
          cases sign with
          | negative =>
              have rounds := (normalize_rounds (-(first : Int) + -(second : Int))
                (min exponent exponent')).2 (by omega)
              have size : -((-(first : Int) + -(second : Int) : Int) : ℝ) =
                  ((first + second : Int) : ℝ) := by
                push_cast
                ring
              rw [← neg_mul, size] at rounds
              exact rounds
          | positive => exact (normalize_rounds (first + second) _).1 (by omega)

theorem Means.sub (means : Means .positive number unpacked)
    (means' : Means .positive number' unpacked') :
    (number' ≤ number →
        Rounds .positive (number - number') (unpacked.sub Format.binary64 unpacked')) ∧
      (number ≤ number' →
        Rounds .negative (number' - number) (unpacked.sub Format.binary64 unpacked')) := by
  cases means with
  | zero own =>
      cases means' with
      | zero own' =>
          show (_ → Rounds _ _ (if own == -own' then .zero own else .zero .positive)) ∧
            (_ → Rounds _ _ (if own == -own' then .zero own else .zero .positive))
          rw [sub_zero]
          split
          · exact ⟨fun _ => rounds_zero rfl, fun _ => rounds_zero rfl⟩
          · exact ⟨fun _ => rounds_zero rfl, fun _ => rounds_zero rfl⟩
      | finite mantissa' exponent' positive' canonical' =>
          constructor
          · intro less
            exact absurd less (size_pos positive' exponent').not_ge
          · intro _
            rw [sub_zero]
            exact (Means.finite _ _ positive' canonical').rounds
  | finite mantissa exponent positive canonical =>
      cases means' with
      | zero own' =>
          constructor
          · intro _
            rw [sub_zero]
            exact (Means.finite _ _ positive canonical).rounds
          · intro less
            exact absurd less (size_pos positive exponent).not_ge
      | finite mantissa' exponent' positive' canonical' =>
          have value := decrease_exponent_eq mantissa (min_le_left exponent exponent')
          have value' := decrease_exponent_eq mantissa' (min_le_right exponent exponent')
          have unit : (0 : ℝ) < 2 ^ min exponent exponent' := by positivity
          rw [← value, ← value', ← sub_mul, ← sub_mul]
          have rounds := normalize_rounds
            ((mantissa <<< (exponent - min exponent exponent').toNat : Nat) -
              (mantissa' <<< (exponent' - min exponent exponent').toNat : Nat) : Int)
            (min exponent exponent')
          rw [← neg_mul, Int.cast_sub, neg_sub] at rounds
          constructor
          · intro less
            have whole := le_of_mul_le_mul_right less unit
            exact rounds.1 (Int.sub_nonneg_of_le (by exact_mod_cast whole))
          · intro less
            have whole := le_of_mul_le_mul_right less unit
            exact rounds.2 (Int.sub_nonpos_of_le (by exact_mod_cast whole))

end Operations

section Packed

variable {sign : Sign} {mantissa : Nat} {exponent : Int} {number exact : ℝ}
  {unpacked : UnpackedFloat}

theorem Canonical.unpack_pack (canonical : Canonical mantissa exponent) (positive : 0 < mantissa)
    (high : exponent ≤ 971) (sign : Sign) :
    (Float.Model.pack (.finite sign mantissa exponent positive)).unpack =
      .finite sign mantissa exponent positive := by
  by_cases full : 2 ^ 52 ≤ mantissa
  · exact FullMantissa.unpack_pack ⟨full, canonical.short⟩ sign canonical.low high
  · -- A number with fewer bits is packed with an exponent field of zero.
    have lowest : exponent = -1074 := canonical.full.resolve_left full
    subst lowest
    have bits : mantissa.log2 + 1 ≠ Format.binary64.mantissaBits := by
      have few : mantissa.log2 < 52 := (Nat.log2_lt positive.ne').2 (by omega)
      show mantissa.log2 + 1 ≠ 53
      omega
    have kept : (BitVec.ofNat 52 mantissa).toNat = mantissa := by
      rw [BitVec.toNat_ofNat]
      exact Nat.mod_eq_of_lt (by omega)
    have some : BitVec.ofNat 52 mantissa ≠ 0#52 := by
      intro same
      have none := congrArg BitVec.toNat same
      rw [kept] at none
      exact positive.ne' none
    show unpack Format.binary64 (pack Format.binary64 _) = _
    simp only [pack]
    rw [if_neg (by decide), if_neg bits]
    simp only [unpack, unpackMantissa_packComponents, unpackExponent_packComponents, unpack_sign_eq]
    rw [if_neg (by decide), if_pos trivial, dif_neg some]
    simp only [kept]
    rfl

theorem unpack_pack_infinity (sign : Sign) :
    (Float.Model.pack (.infinity sign)).unpack = .infinity sign := by
  cases sign with
  | negative => rfl
  | positive => rfl

theorem unpack_pack_zero (sign : Sign) : (Float.Model.pack (.zero sign)).unpack = .zero sign := by
  cases sign with
  | negative => rfl
  | positive => rfl

theorem unpack_pack_overflow (positive : 0 < mantissa) (high : 971 < exponent) (sign : Sign) :
    (Float.Model.pack (.finite sign mantissa exponent positive)).unpack = .infinity sign := by
  have full : 2 ^ Format.binary64.exponentBits ≤ (exponent + Format.binary64.exponentBias +
      Format.binary64.mantissaBitsWithoutImplicit).toNat + 1 := by
    show 2 ^ 11 ≤ (exponent + (1023 : Nat) + (52 : Nat)).toNat + 1
    omega
  have packed : pack Format.binary64 (.finite sign mantissa exponent positive) =
      packedInfinity Format.binary64 sign := if_pos full
  show unpack Format.binary64 (pack Format.binary64 _) = _
  rw [packed]
  exact unpack_pack_infinity sign

end Packed

end Resemblance
