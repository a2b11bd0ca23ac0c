import Mathlib
import Resemblance.Delegate
import Resemblance.Proofs.SignedDouble

/-!
Doubles in the unit interval. Doubles are ordered like the numbers that they stand for; what is held
within zero and one is in the unit interval as long as it is a number; and so is the quotient of a
count by one that is not less.
-/

namespace Resemblance

open Float.Model (Format UnpackedFloat totalExponent)
open Float.Model.UnpackedFloat

section Order

variable {mantissa mantissa' : Nat} {exponent exponent' : Int} {x y : Float}
  {number number' bound : ℝ}
  {unpacked unpacked' : UnpackedFloat}

theorem Canonical.less (canonical : Canonical mantissa exponent)
    (canonical' : Canonical mantissa' exponent')
    (less : exponent < exponent' ∨ exponent = exponent' ∧ mantissa < mantissa') :
    (mantissa : ℝ) * 2 ^ exponent < mantissa' * 2 ^ exponent' := by
  have unit : (0 : ℝ) < 2 ^ exponent := by positivity
  rcases less with lower | ⟨rfl, less⟩
  · have low := canonical.low
    have full : 2 ^ 52 ≤ mantissa' := canonical'.full.resolve_right (by omega)
    have least : (2 : ℝ) ^ 52 ≤ mantissa' := by exact_mod_cast full
    have most : (mantissa : ℝ) < 2 ^ 53 := by exact_mod_cast canonical.short
    calc (mantissa : ℝ) * 2 ^ exponent < 2 ^ 53 * 2 ^ exponent := mul_lt_mul_of_pos_right most unit
      _ = 2 ^ 52 * 2 ^ (exponent + 1) := by
          rw [zpow_add_one₀ two_ne_zero]
          ring
      _ ≤ (mantissa' : ℝ) * 2 ^ exponent' :=
          mul_le_mul least (zpow_le_zpow_right₀ one_le_two (by omega)) (by positivity)
            (by positivity)
  · exact mul_lt_mul_of_pos_right (by exact_mod_cast less) unit

/-- The number that a double stands for, where it is one. -/
inductive Reads : UnpackedFloat → EReal → Prop
  | bottom : Reads (.infinity .negative) ⊥
  | top : Reads (.infinity .positive) ⊤
  | zero (sign : Sign) : Reads (.zero sign) 0
  | below (mantissa : Nat) (exponent : Int) (positive : 0 < mantissa)
      (canonical : Canonical mantissa exponent) :
      Reads (.finite .negative mantissa exponent positive)
        ((-(mantissa * 2 ^ exponent) : ℝ) : EReal)
  | above (mantissa : Nat) (exponent : Int) (positive : 0 < mantissa)
      (canonical : Canonical mantissa exponent) :
      Reads (.finite .positive mantissa exponent positive) ((mantissa * 2 ^ exponent : ℝ) : EReal)

theorem Canonical.compare (canonical : Canonical mantissa exponent)
    (canonical' : Canonical mantissa' exponent') :
    (Ord.compare exponent exponent').then (Ord.compare mantissa mantissa') =
      Ord.compare ((mantissa : ℝ) * 2 ^ exponent) (mantissa' * 2 ^ exponent') := by
  rcases lt_trichotomy exponent exponent' with lower | rfl | higher
  · rw [compare_lt_iff_lt.2 lower, compare_lt_iff_lt.2 (canonical.less canonical' (.inl lower))]
    rfl
  · rw [compare_eq_iff_eq.2 (Eq.refl exponent)]
    rcases lt_trichotomy mantissa mantissa' with less | rfl | more
    · rw [compare_lt_iff_lt.2 less,
        compare_lt_iff_lt.2 (canonical.less canonical' (.inr ⟨rfl, less⟩))]
      rfl
    · rw [compare_eq_iff_eq.2 (Eq.refl mantissa), compare_eq_iff_eq.2 rfl]
      rfl
    · rw [compare_gt_iff_gt.2 more,
        compare_gt_iff_gt.2 (canonical'.less canonical (.inr ⟨rfl, more⟩))]
      rfl
  · rw [compare_gt_iff_gt.2 higher, compare_gt_iff_gt.2 (canonical'.less canonical (.inl higher))]
    rfl

theorem compare_coe (a b : ℝ) : Ord.compare (a : EReal) b = Ord.compare a b := by
  rcases lt_trichotomy a b with less | rfl | more
  · rw [compare_lt_iff_lt.2 less, compare_lt_iff_lt.2 (EReal.coe_lt_coe less)]
  · rw [compare_eq_iff_eq.2 rfl, compare_eq_iff_eq.2 rfl]
  · rw [compare_gt_iff_gt.2 more, compare_gt_iff_gt.2 (EReal.coe_lt_coe more)]

theorem compare_neg (a b : ℝ) : Ord.compare (-a) (-b) = (Ord.compare a b).swap := by
  rcases lt_trichotomy a b with less | rfl | more
  · rw [compare_lt_iff_lt.2 less, compare_gt_iff_gt.2 (neg_lt_neg less)]
    rfl
  · rw [compare_eq_iff_eq.2 rfl, compare_eq_iff_eq.2 rfl]
    rfl
  · rw [compare_gt_iff_gt.2 more, compare_lt_iff_lt.2 (neg_lt_neg more)]
    rfl

/-- Doubles are ordered like the numbers that they stand for. -/
theorem Reads.compare {number number' : EReal} (reads : Reads unpacked number)
    (reads' : Reads unpacked' number') :
    unpacked.compare unpacked' = some (Ord.compare number number') := by
  have less : ∀ {a b : EReal}, a < b → some Ordering.lt = some (Ord.compare a b) := fun less => by
    rw [compare_lt_iff_lt.2 less]
  have more : ∀ {a b : EReal}, b < a → some Ordering.gt = some (Ord.compare a b) := fun more => by
    rw [compare_gt_iff_gt.2 more]
  have same : ∀ {a : EReal}, some Ordering.eq = some (Ord.compare a a) := by
    intro a
    rw [compare_eq_iff_eq.2 rfl]
  cases reads with
  | bottom =>
      cases reads' with
      | bottom => exact same
      | top => exact less bot_lt_top
      | zero sign' => exact less EReal.bot_lt_zero
      | below mantissa' exponent' positive' canonical' => exact less (EReal.bot_lt_coe _)
      | above mantissa' exponent' positive' canonical' => exact less (EReal.bot_lt_coe _)
  | top =>
      cases reads' with
      | bottom => exact more bot_lt_top
      | top => exact same
      | zero sign' => exact more EReal.zero_lt_top
      | below mantissa' exponent' positive' canonical' => exact more (EReal.coe_lt_top _)
      | above mantissa' exponent' positive' canonical' => exact more (EReal.coe_lt_top _)
  | zero sign =>
      cases reads' with
      | bottom => exact more EReal.bot_lt_zero
      | top => exact less EReal.zero_lt_top
      | zero sign' => exact same
      | below mantissa' exponent' positive' canonical' =>
          exact more (by exact_mod_cast neg_lt_zero.2 (size_pos positive' exponent'))
      | above mantissa' exponent' positive' canonical' =>
          exact less (by exact_mod_cast size_pos positive' exponent')
  | below mantissa exponent positive canonical =>
      have size := size_pos positive exponent
      cases reads' with
      | bottom => exact more (EReal.bot_lt_coe _)
      | top => exact less (EReal.coe_lt_top _)
      | zero sign' => exact less (by exact_mod_cast neg_lt_zero.2 size)
      | below mantissa' exponent' positive' canonical' =>
          rw [compare_coe, compare_neg, ← canonical.compare canonical']
          rfl
      | above mantissa' exponent' positive' canonical' =>
          have size' := size_pos positive' exponent'
          exact less (EReal.coe_lt_coe (by linarith))
  | above mantissa exponent positive canonical =>
      have size := size_pos positive exponent
      cases reads' with
      | bottom => exact more (EReal.bot_lt_coe _)
      | top => exact less (EReal.coe_lt_top _)
      | zero sign' => exact more (by exact_mod_cast size)
      | below mantissa' exponent' positive' canonical' =>
          have size' := size_pos positive' exponent'
          exact more (EReal.coe_lt_coe (by linarith))
      | above mantissa' exponent' positive' canonical' =>
          rw [compare_coe, ← canonical.compare canonical']
          rfl

def Valued (x : Float) (number : EReal) : Prop :=
  Reads x.toModel.unpack number

section Value

variable {x y : Float} {number bound : ℝ} {value value' : EReal}

theorem Valued.lt_iff (valued : Valued x value) (valued' : Valued y value') : x < y ↔
    value < value' := by
  show decide (x.toModel < y.toModel) = true ↔ _
  rw [decide_eq_true_iff, ← compare_lt_iff_lt]
  show (x.toModel.unpack.compare y.toModel.unpack == some .lt) = true ↔ _
  rw [Reads.compare valued valued']
  simp

theorem Valued.le_iff (valued : Valued x value) (valued' : Valued y value') : x ≤ y ↔
    value ≤ value' := by
  show decide (x.toModel ≤ y.toModel) = true ↔ _
  rw [decide_eq_true_iff, ← compare_le_iff_le, ne_eq, ← Ordering.isLE_iff_ne_gt]
  show ((x.toModel.unpack.compare y.toModel.unpack).any (·.isLE)) = true ↔ _
  rw [Reads.compare valued valued', Option.any_some]

theorem Valued.beq_iff (valued : Valued x value) (valued' : Valued y value') :
    (x == y) = true ↔ value = value' := by
  show (x.toModel.unpack.compare y.toModel.unpack == some .eq) = true ↔ _
  rw [Reads.compare valued valued', ← compare_eq_iff_eq]
  simp

theorem Worth.valued (worth : Worth .positive x number) : Valued x number := by
  unfold Worth at worth
  unfold Valued
  generalize x.toModel.unpack = unpacked at worth ⊢
  cases worth with
  | zero own => exact .zero own
  | finite mantissa exponent positive canonical => exact .above mantissa exponent positive canonical

theorem Valued.worth (valued : Valued x value) (positive : 0 ≤ value) (small : value < ⊤) :
    Worth .positive x value.toReal := by
  unfold Valued at valued
  unfold Worth
  generalize x.toModel.unpack = unpacked at valued ⊢
  cases valued with
  | bottom => exact absurd positive EReal.bot_lt_zero.not_ge
  | top => exact absurd small (lt_irrefl ⊤)
  | zero sign => exact .zero sign
  | below mantissa exponent some canonical =>
      have size := size_pos some exponent
      exact absurd (EReal.coe_nonneg.1 positive) (by linarith)
  | above mantissa exponent some canonical => exact .finite mantissa exponent some canonical

theorem Sided.valued (sided : Sided .positive x) : ∃ value, Valued x value ∧ 0 ≤ value := by
  rcases sided with ⟨number, worth⟩ | great
  · exact ⟨number, worth.valued, EReal.coe_nonneg.2 worth.nonneg⟩
  · refine ⟨⊤, ?_, le_top⟩
    unfold Valued
    rw [great]
    exact .top

theorem Sided.valued_negative (sided : Sided .negative x) : ∃ value, Valued x value ∧
    value ≤ 0 := by
  unfold Valued
  rcases sided with ⟨number, worth⟩ | great
  · unfold Worth at worth
    generalize x.toModel.unpack = unpacked at worth ⊢
    cases worth with
    | zero own => exact ⟨0, .zero own, le_rfl⟩
    | finite mantissa exponent positive canonical =>
        have size := size_pos positive exponent
        exact ⟨_, .below _ _ positive canonical, by exact_mod_cast neg_nonpos.2 size.le⟩
  · rw [great]
    exact ⟨⊥, .bottom, bot_le⟩

theorem number_valued (number : x.toModel.unpack ≠ .notANumber) : ∃ value, Valued x value := by
  obtain ⟨sign, sided⟩ := number_sided number
  cases sign with
  | negative =>
      obtain ⟨value, valued, -⟩ := sided.valued_negative
      exact ⟨value, valued⟩
  | positive =>
      obtain ⟨value, valued, -⟩ := sided.valued
      exact ⟨value, valued⟩

theorem Worth.finite {sign : Sign} (worth : Worth sign x number) : x.isFinite = true := by
  show x.toModel.unpack.isFinite = true
  unfold Worth at worth
  generalize x.toModel.unpack = unpacked at worth ⊢
  cases worth with
  | zero own => rfl
  | finite mantissa exponent positive canonical => rfl

theorem Sided.is_number {sign : Sign} (sided : Sided sign x) : x.toModel.unpack ≠ .notANumber := by
  intro none
  unfold Sided Worth at sided
  rw [none] at sided
  rcases sided with ⟨number, means⟩ | great
  · cases means
  · cases great

theorem le_numbers (less : x ≤ y) :
    x.toModel.unpack ≠ .notANumber ∧ y.toModel.unpack ≠ .notANumber := by
  have bits : UnpackedFloat.le x.toModel.unpack y.toModel.unpack = true := decide_eq_true_iff.1 less
  constructor
  · intro none
    rw [none] at bits
    cases bits
  · intro none
    rw [none] at bits
    generalize x.toModel.unpack = unpacked at bits
    cases unpacked with
    | infinity own => cases bits
    | notANumber => cases bits
    | zero own => cases bits
    | finite own mantissa exponent positive => cases bits

theorem lt_numbers (less : x < y) :
    x.toModel.unpack ≠ .notANumber ∧ y.toModel.unpack ≠ .notANumber := by
  have bits : (x.toModel.unpack.compare y.toModel.unpack == some .lt) = true :=
    decide_eq_true_iff.1 less
  constructor
  · intro none
    rw [none] at bits
    cases bits
  · intro none
    rw [none] at bits
    generalize x.toModel.unpack = unpacked at bits
    cases unpacked with
    | infinity own => cases own <;> cases bits
    | notANumber => cases bits
    | zero own => cases bits
    | finite own mantissa exponent positive => cases own <;> cases bits

theorem Valued.within (valued : Valued x value) (positive : 0 ≤ value) (least : value ≤ bound) :
    Within bound x := by
  have small := least.trans_lt (EReal.coe_lt_top bound)
  have some := (EReal.bot_lt_zero.trans_le positive).ne'
  have most := EReal.toReal_le_toReal least some (EReal.coe_ne_top bound)
  exact ⟨value.toReal, most.trans_eq (EReal.toReal_coe bound), valued.worth positive small⟩

theorem Worth.either_sign {sign sign' : Sign} (worth : Worth sign x number) (nothing : number = 0) :
    Worth sign' x 0 := by
  unfold Worth at *
  generalize x.toModel.unpack = unpacked at worth ⊢
  cases worth with
  | zero own => exact .zero own
  | finite mantissa exponent positive canonical =>
      exact absurd nothing (size_pos positive exponent).ne'

theorem worth_of_finite (finite : x.isFinite = true) (valued : Valued x value)
    (positive : 0 ≤ value) :
    ∃ number, Worth .positive x number := by
  have known : x.toModel.unpack.isFinite = true := finite
  refine ⟨value.toReal, valued.worth positive (lt_of_le_of_ne le_top ?_)⟩
  rintro rfl
  unfold Valued at valued
  generalize x.toModel.unpack = unpacked at known valued
  cases valued
  cases known

end Value

end Order

section Counts

theorem SmallCount.mantissa_eq {count : Nat} (small : SmallCount count) :
    (SmallCount.mantissa count : ℝ) * 2 ^ SmallCount.exponent count = count := by
  have few := small.log2_le
  rw [SmallCount.mantissa, SmallCount.exponent, Nat.cast_mul, mul_assoc, Nat.cast_pow,
    Nat.cast_ofNat, ← zpow_natCast, ← zpow_add₀ two_ne_zero, Nat.cast_sub few]
  have none : ((52 : Nat) : Int) - count.log2 + (count.log2 - 52) = 0 := by omega
  rw [none, zpow_zero, mul_one]

theorem SmallCount.worth {count : Nat} (small : SmallCount count) :
    Worth .positive count.toFloat count := by
  have full := small.full_mantissa
  have low := SmallCount.exponent_low count
  have canonical : Canonical (mantissa count) (exponent count) :=
    ⟨full.high, by omega, .inl full.low⟩
  have means : Means .positive _ _ := .finite _ _ full.pos canonical
  rw [small.mantissa_eq] at means
  unfold Worth
  rw [small.unpack_to_float]
  exact means

theorem worth_zero : Worth .positive (0 : Nat).toFloat 0 := by
  unfold Worth
  rw [unpack_zero]
  exact .zero .positive

theorem Worth.computes (worth : Worth .positive x number) (small : number < 2 ^ 1024) :
    Computes .positive number x :=
  ⟨number, worth.representable.nearest, .inl ⟨not_le.2 small, worth⟩⟩

theorem count_computes (count : Nat) : Computes .positive count count.toFloat := by
  by_cases small : count < 2 ^ 53
  · rcases Nat.eq_zero_or_pos count with rfl | positive
    · rw [Nat.cast_zero]
      exact worth_zero.computes (by positivity)
    · apply (SmallCount.mk positive small).worth.computes
      have least : (count : ℝ) < 2 ^ 53 := by exact_mod_cast small
      exact least.trans (pow_lt_pow_right₀ one_lt_two (by norm_num))
  · -- A greater count is scaled up and multiplied by one.
    have some : count ≠ 0 := by omega
    have enough : 2 ^ 52 ≤ count <<< 53 * 10 ^ 0 ∨ (-53 : Int) + 0 ≤ -1074 := by
      rw [Nat.shiftLeft_eq]
      omega
    have rounds := rounds_exact enough .positive
    have same : ((count <<< 53 * 10 ^ 0 : Nat) : ℝ) * 2 ^ ((-53 : Int) + 0) = count := by
      have unit : (2 : ℝ) ^ 53 * 2 ^ (-53 : Int) = 1 := by norm_num
      rw [Nat.shiftLeft_eq, pow_zero, Nat.mul_one, add_zero, Nat.cast_mul, Nat.cast_pow,
        Nat.cast_ofNat, mul_assoc, unit, mul_one]
    rw [same] at rounds
    apply rounds.computes
    show (Float.ofScientific count false 0).toModel = _
    rw [Float.ofScientific, dif_neg (by omega)]
    show Float.Model.pack (UnpackedFloat.ofScientific Format.binary64 count 0) = _
    have width : (2 : Int) ^ Format.binary64.exponentBits = 2048 := rfl
    rw [UnpackedFloat.ofScientific, dif_neg some, if_neg (by decide), if_neg (by omega),
      if_pos (Int.le_refl 0)]
    rfl

theorem worth_one : Worth .positive (1 : Nat).toFloat 1 := by
  have small : SmallCount 1 := ⟨by decide, by decide⟩
  have worth := small.worth
  rwa [Nat.cast_one] at worth

end Counts

section Unit

variable {x y : Float} {number bound : ℝ} {value value' : EReal}

def InUnit (x : Float) : Prop :=
  0.0 ≤ x ∧ x ≤ 1.0

theorem literal_zero : (0.0 : Float) = (0 : Nat).toFloat := by
  decide +kernel

theorem literal_one : (1.0 : Float) = (1 : Nat).toFloat := by
  decide +kernel

theorem worth_literal_one : Worth .positive 1.0 1 := by
  rw [literal_one]
  exact worth_one

theorem worth_two : Worth .positive 2.0 2 := by
  have literal : (2.0 : Float) = (2 : Nat).toFloat := by decide +kernel
  have small : SmallCount 2 := ⟨by decide, by decide⟩
  rw [literal]
  exact small.worth

theorem worth_three : Worth .positive 3.0 3 := by
  have literal : (3.0 : Float) = (3 : Nat).toFloat := by decide +kernel
  have small : SmallCount 3 := ⟨by decide, by decide⟩
  rw [literal]
  exact small.worth

theorem in_unit_iff : InUnit x ↔ Within 1 x := by
  unfold InUnit
  rw [literal_zero, literal_one]
  constructor
  · rintro ⟨low, high⟩
    obtain ⟨value, valued⟩ := number_valued (le_numbers low).2
    exact valued.within ((worth_zero.valued.le_iff valued).1 low)
      ((valued.le_iff worth_one.valued).1 high)
  · rintro ⟨number, least, worth⟩
    exact ⟨(worth_zero.valued.le_iff worth.valued).2 (EReal.coe_le_coe_iff.2 worth.nonneg),
      (worth.valued.le_iff worth_one.valued).2 (EReal.coe_le_coe_iff.2 least)⟩

theorem zero_within : Within 1 0.0 := by
  rw [literal_zero]
  exact ⟨0, zero_le_one, worth_zero⟩

theorem one_within : Within 1 1.0 :=
  ⟨1, le_rfl, worth_literal_one⟩

theorem nonpos_iff_sided : x ≤ 0.0 ↔ Sided .negative x := by
  rw [literal_zero]
  constructor
  · intro less
    obtain ⟨sign, sided⟩ := number_sided (le_numbers less).1
    cases sign with
    | negative => exact sided
    | positive =>
        obtain ⟨value, valued, positive⟩ := sided.valued
        have nothing : value = ((0 : ℝ) : EReal) :=
          le_antisymm ((valued.le_iff worth_zero.valued).1 less) positive
        rw [nothing] at valued
        have worth := valued.worth le_rfl (EReal.coe_lt_top 0)
        exact (worth.either_sign (EReal.toReal_coe 0)).sided
  · intro sided
    obtain ⟨value, valued, negative⟩ := sided.valued_negative
    exact (valued.le_iff worth_zero.valued).2 negative

theorem pos_of_within (within : Within bound x) (some : (x == 0.0) = false) : 0.0 < x := by
  obtain ⟨number, -, worth⟩ := within
  rw [literal_zero] at some ⊢
  have apart : number ≠ 0 := by
    rintro rfl
    rw [(worth.valued.beq_iff worth_zero.valued).2 rfl] at some
    cases some
  have positive : 0 < number := lt_of_le_of_ne worth.nonneg apart.symm
  exact (worth_zero.valued.lt_iff worth.valued).2 (EReal.coe_lt_coe positive)

/-- What is held within zero and one is there, provided that it is a number. -/
theorem clamp_in_unit (number : x.toModel.unpack ≠ .notANumber) : InUnit (clampUnit x) := by
  obtain ⟨value, valued⟩ := number_valued number
  rw [in_unit_iff]
  show Within 1 (if decide (x < (0 : Nat).toFloat) then (0 : Nat).toFloat
    else if decide ((1 : Nat).toFloat < x) then (1 : Nat).toFloat else x)
  by_cases low : x < (0 : Nat).toFloat
  · rw [if_pos (decide_eq_true low)]
    exact ⟨0, zero_le_one, worth_zero⟩
  · rw [if_neg (by simpa using low)]
    by_cases high : (1 : Nat).toFloat < x
    · rw [if_pos (decide_eq_true high)]
      exact ⟨1, le_rfl, worth_one⟩
    · rw [if_neg (by simpa using high)]
      exact valued.within (le_of_not_gt fun less => low ((valued.lt_iff worth_zero.valued).2 less))
        (le_of_not_gt fun more => high ((worth_one.valued.lt_iff valued).2 more))

theorem clamp_of_within (within : Within 1 x) : clampUnit x = x := by
  obtain ⟨number, least, worth⟩ := within
  have low : ¬ x < (0 : Nat).toFloat := fun less =>
    not_lt_of_ge (EReal.coe_le_coe_iff.2 worth.nonneg)
      ((worth.valued.lt_iff worth_zero.valued).1 less)
  have high : ¬ (1 : Nat).toFloat < x := fun more =>
    not_lt_of_ge (EReal.coe_le_coe_iff.2 least) ((worth_one.valued.lt_iff worth.valued).1 more)
  show (if decide (x < (0 : Nat).toFloat) then (0 : Nat).toFloat
    else if decide ((1 : Nat).toFloat < x) then (1 : Nat).toFloat else x) = x
  rw [if_neg (by simpa using low), if_neg (by simpa using high)]

end Unit

end Resemblance
