import Mathlib
import Resemblance.Proofs.DeviationProducts
import Resemblance.Temperature.Effect

/-!
The correlation of a list in doubles with one that has a single value throughout. The deviation of
the flat list is rounded and need not be zero, so that the guard against dividing by zero does not
decide. What is divided is zero, or not a number, since the sum of products is.
-/

namespace Resemblance

open Float.Model (Format UnpackedFloat)
open Float.Model.UnpackedFloat

section Correlation

variable {x y : Float} {xs ys : List Float} {exact bound : ℝ}

theorem zero_lt_infinity (great : x.toModel.unpack = .infinity .positive) :
    (Scalar.zero : Float) < x := by
  have valued : Valued x ⊤ := by
    unfold Valued
    rw [great]
    exact .top
  exact (worth_zero.valued.lt_iff valued).2 (EReal.coe_lt_top 0)

theorem Computes.positive (computes : Computes .positive exact x) (own : Representable bound)
    (some : 0 < bound)
    (least : bound ≤ exact) : (Scalar.zero : Float) < x := by
  obtain ⟨rounded, nearest, ⟨-, worth⟩ | ⟨-, great⟩⟩ := computes
  · have above := some.trans_le (nearest.ge_of_ge own least)
    exact (worth_zero.valued.lt_iff worth.valued).2 (EReal.coe_lt_coe above)
  · exact zero_lt_infinity great

theorem count_less_one_positive {count : Nat} (several : 2 ≤ count) :
    (Scalar.zero : Float) < Scalar.ofNat count - Scalar.ofNat 1 := by
  show (Scalar.zero : Float) < count.toFloat - (1 : Nat).toFloat
  obtain ⟨rounded, nearest, ⟨-, worth⟩ | ⟨-, great⟩⟩ := count_computes count
  · have least : 2 ≤ rounded := nearest.ge_of_ge worth_two.representable (by exact_mod_cast several)
    exact (worth.sub worth_one (by linarith)).positive representable_one zero_lt_one (by linarith)
  · apply zero_lt_infinity
    rw [to_model_sub, great, ← literal_one, unpack_one]
    exact unpack_pack_infinity .positive

theorem zero_div (positive : (Scalar.zero : Float) < y) : Scalar.zero / y = Scalar.zero := by
  obtain ⟨value, valued⟩ := number_valued (lt_numbers positive).2
  have above : ((0 : ℝ) : EReal) < value := (worth_zero.valued.lt_iff valued).1 positive
  apply eq_of_unpacked
  rw [to_model_div, unpacked_zero]
  unfold Valued at valued
  generalize y.toModel.unpack = unpacked at valued ⊢
  cases valued with
  | bottom => exact absurd above not_lt_bot
  | top => exact unpack_pack_zero .positive
  | zero sign => exact absurd above (lt_irrefl _)
  | below mantissa exponent some canonical =>
      have size := size_pos some exponent
      exact absurd (EReal.coe_lt_coe_iff.1 above) (by linarith)
  | above mantissa exponent some canonical => exact unpack_pack_zero .positive

theorem finite_left (finite : (x * y).isFinite = true) : x.isFinite = true := by
  have known :
      (Float.Model.pack (x.toModel.unpack.mul Format.binary64 y.toModel.unpack)).unpack.isFinite =
        true :=
    finite
  show x.toModel.unpack.isFinite = true
  generalize x.toModel.unpack = unpacked at known ⊢
  generalize y.toModel.unpack = other at known
  have undefined : ¬ (Float.Model.pack .notANumber).unpack.isFinite = true := nofun
  have infinite (sign : Sign) : ¬ (Float.Model.pack (.infinity sign)).unpack.isFinite = true := by
    rw [unpack_pack_infinity]
    nofun
  cases unpacked with
  | zero sign => rfl
  | finite sign mantissa exponent positive => rfl
  | notANumber => cases other <;> exact absurd known undefined
  | infinity sign =>
      cases other with
      | notANumber => exact absurd known undefined
      | zero sign' => exact absurd known undefined
      | infinity sign' => exact absurd known (infinite (sign * sign'))
      | finite sign' mantissa exponent positive => exact absurd known (infinite (sign * sign'))

theorem finite_right (finite : (x * y).isFinite = true) : y.isFinite = true := by
  rw [float_mul_comm] at finite
  exact finite_left finite

theorem deviation_worth (finite : (deviation xs).isFinite = true) :
    ∃ number, Worth .positive (deviation xs) number := by
  obtain ⟨sign, number, worth⟩ := worth_of_is_finite finite
  rcases deviation_sided worth.sided.is_number with positive | great
  · exact positive
  · rw [infinite_not_finite great] at finite
    cases finite

theorem scale_positive (finite : (deviation xs * deviation ys).isFinite = true)
    (some : ¬ (deviation xs * deviation ys ≤ Scalar.zero ∧
      Scalar.zero ≤ deviation xs * deviation ys)) :
    Scalar.zero < deviation xs * deviation ys := by
  obtain ⟨number, worth⟩ := deviation_worth (finite_left finite)
  obtain ⟨number', worth'⟩ := deviation_worth (finite_right finite)
  obtain ⟨scale, found, -⟩ := (worth.mul worth').finite finite
  have found : Worth .positive (deviation xs * deviation ys) scale := found
  have apart : scale ≠ 0 := by
    rintro rfl
    exact some ⟨(found.valued.le_iff worth_zero.valued).2 le_rfl,
      (worth_zero.valued.le_iff found.valued).2 le_rfl⟩
  exact (worth_zero.valued.lt_iff found.valued).2
    (EReal.coe_lt_coe (found.nonneg.lt_of_ne apart.symm))

/-- A correlation is zero, or it is the sum of products, divided by something positive twice and
then clamped. -/
theorem correlation_cases (xs ys : List Float) :
    correlation xs ys = Scalar.zero ∨
      ∃ count scale : Float, Scalar.zero < count ∧ Scalar.zero < scale ∧
        correlation xs ys = Scalar.clamp (Scalar.zero - Scalar.ofNat 1) (Scalar.ofNat 1)
          (((xs.zip ys).foldl RunningProducts.add .start).products / count / scale) := by
  unfold correlation
  split
  next => exact .inl rfl
  next paired =>
    dsimp only
    split
    next => exact .inl rfl
    next usable =>
      simp only [Bool.or_eq_true, not_or, bne_iff_ne, decide_eq_true_eq, ne_eq, not_not] at paired
      simp only [Bool.or_eq_true, not_or, Bool.and_eq_true, Bool.not_eq_true', Bool.not_eq_false]
        at usable
      have apart : ¬ (deviation xs * deviation ys ≤ Scalar.zero ∧
          Scalar.zero ≤ deviation xs * deviation ys) :=
        fun same => usable.1 ⟨decide_eq_true same.1, decide_eq_true same.2⟩
      refine .inr ⟨_, _, count_less_one_positive ?_, scale_positive usable.2 apart, rfl⟩
      rw [RunningProducts.count_follow, List.length_zip]
      omega

theorem correlation_of_blanks
    (blank : ∀ term ∈ RunningProducts.start.terms (xs.zip ys), Blank term) :
    correlation xs ys = Scalar.zero ∨
      (correlation xs ys).toModel.unpack = .notANumber ∧
        ∃ term ∈ RunningProducts.start.terms (xs.zip ys), term.toModel.unpack = .notANumber := by
  rcases correlation_cases xs ys with nothing | ⟨count, scale, some, some', quotient⟩
  · exact .inl nothing
  · rw [quotient, RunningProducts.products_eq, RunningProducts.start_products]
    rcases sum_of_blanks blank with nothing | ⟨none, undefined⟩
    · left
      rw [nothing, zero_div some, zero_div some']
      decide +kernel
    · right
      have divided := undefined_over (undefined_over none count) scale
      exact ⟨(clamp_undefined divided _ _).symm ▸ divided, undefined⟩

end Correlation

section Flat

variable {value x : Float} {xs ys others : List Float}

theorem flat_left_blank (value : Float) (others : List Float) :
    ∀ term ∈ RunningProducts.start.terms ((List.replicate others.length value).zip others),
    Blank term :=
  RunningProducts.terms_of_flat_left
    (fun _ member => List.eq_of_mem_replicate (List.of_mem_zip member).1) (.inl rfl)

theorem flat_right_blank (value : Float) (others : List Float) :
    ∀ term ∈ RunningProducts.start.terms (others.zip (List.replicate others.length value)),
    Blank term :=
  RunningProducts.terms_of_flat_right
    (fun _ member => List.eq_of_mem_replicate (List.of_mem_zip member).2) (.inl ⟨rfl, rfl⟩)

/-- A finite number that is at most ten to the hundredth power in size. -/
def Moderate (x : Float) : Prop :=
  -1e100 ≤ x ∧ x ≤ 1e100

instance : DecidablePred Moderate :=
  fun _ => inferInstanceAs (Decidable (_ ∧ _))

theorem Moderate.sized (moderate : Moderate x) : Sized (2 ^ 400) x := by
  have literal : (1e100 : Float) = (10 ^ 100 : Nat).toFloat := by decide +kernel
  have most : ((10 ^ 100 : Nat) : ℝ) ≤ 2 ^ 400 :=
    calc ((10 ^ 100 : Nat) : ℝ) = 10 ^ 100 := by rw [Nat.cast_pow, Nat.cast_ofNat]
      _ ≤ 16 ^ 100 := pow_le_pow_left₀ (by norm_num) (by norm_num) 100
      _ = 2 ^ 400 := by rw [show (16 : ℝ) = 2 ^ 4 by norm_num, ← pow_mul]
  obtain ⟨size, worth, nearest⟩ := (count_computes (10 ^ 100)).nearest
    (most.trans (pow_le_pow_right₀ one_le_two (by norm_num)))
  rw [← literal] at worth
  have greatest : Sized (2 ^ 400) 1e100 := by
    refine ⟨size, worth.valued, ?_⟩
    rw [abs_of_nonneg worth.nonneg]
    exact nearest.le_of_le (representable_two_pow 400) most
  exact greatest.neg.between greatest moderate.1 moderate.2

/-- The means start at zero, and numbers of moderate size have products that are numbers. -/
theorem moderate_terms (moderate : ∀ x ∈ xs, Moderate x) (moderate' : ∀ y ∈ ys, Moderate y) :
    ∀ term ∈ RunningProducts.start.terms (xs.zip ys), term.toModel.unpack ≠ .notANumber := by
  have nothing : Sized (2 ^ 401) Scalar.zero := ⟨0, worth_zero.valued, by rw [abs_zero]; positivity⟩
  refine RunningProducts.terms_are_numbers (by norm_num) (fun pair member => ?_) nothing nothing
  obtain ⟨left, right⟩ := List.of_mem_zip member
  exact ⟨(moderate _ left).sized, (moderate' _ right).sized⟩

theorem correlation_eq_zero (blank : ∀ term ∈ RunningProducts.start.terms (xs.zip ys), Blank term)
    (moderate : ∀ x ∈ xs, Moderate x) (moderate' : ∀ y ∈ ys, Moderate y) :
    correlation xs ys = 0.0 := by
  rw [literal_zero]
  rcases correlation_of_blanks blank with nothing | ⟨-, term, member, undefined⟩
  · exact nothing
  · exact absurd undefined (moderate_terms moderate moderate' term member)

/-- No trend is seen in a correlation of zero, nor in one that is not a number. -/
theorem trend_neutral (nothing : x = Scalar.zero ∨ x.toModel.unpack = .notANumber) :
    Trend.ofCorrelation x = .neutral := by
  rcases nothing with rfl | none
  · decide +kernel
  · unfold Trend.ofCorrelation
    rw [if_neg fun less => (lt_numbers less).1 none, if_neg fun more => (lt_numbers more).2 none]

/-- A list with a single value throughout is not correlated with any other one, on either side,
although its deviation as it is computed need not be zero. So there is no trend in a flat
consistency, not even where doubles are infinite or not numbers. -/
theorem flat_lists_are_uncorrelated :
    (∀ (value : Float) (others : List Float), Moderate value → (∀ other ∈ others, Moderate other) →
      correlation (List.replicate others.length value) others = 0.0 ∧
        correlation others (List.replicate others.length value) = 0.0) ∧
    (∃ (count : Nat) (value : Float), 2 ≤ count ∧ Moderate value ∧
      (deviation (List.replicate count value) == 0.0) = false) ∧
    ∀ (consistency : Float) (temperatures : List Float), 2 ≤ temperatures.length →
      ∃ effect,
        TemperatureEffect.ofPoints? temperatures (List.replicate temperatures.length consistency) =
        some effect ∧ effect.trend = .neutral := by
  refine ⟨fun value others own moderate => ?_, ?_, fun consistency temperatures several => ?_⟩
  · have flat : ∀ x ∈ List.replicate others.length value, Moderate x := fun x member =>
      List.eq_of_mem_replicate member ▸ own
    exact ⟨correlation_eq_zero (flat_left_blank value others) flat moderate,
      correlation_eq_zero (flat_right_blank value others) moderate flat⟩
  · exact ⟨6, 0.1, by norm_num, by decide +kernel, by decide +kernel⟩
  · refine ⟨⟨correlation temperatures (List.replicate temperatures.length consistency)⟩, ?_,
      trend_neutral ?_⟩
    · rw [TemperatureEffect.ofPoints?, List.length_replicate, bne_self_eq_false, Bool.or_false,
        if_neg (by simpa using Nat.lt_of_succ_le several)]
    · exact (correlation_of_blanks (flat_right_blank consistency temperatures)).imp_right And.left

/-- The deviation of a tenth six times is not zero. -/
theorem tenths_are_uncorrelated :
    (deviation (List.replicate 6 (0.1 : Float)) == 0.0) = false ∧
      correlation (List.replicate 6 0.1) [0.0, 0.2, 0.5, 0.7, 1.0, 1e100] = (0.0 : Float) ∧
      correlation [0.0, 0.2, 0.5, 0.7, 1.0, 1e100] (List.replicate 6 0.1) = (0.0 : Float) ∧
      ∃ effect,
        TemperatureEffect.ofPoints? [0.0, 0.2, 0.5, 0.7, 1.0, 1e100] (List.replicate 6 0.1) =
          some effect ∧
        effect.trend = .neutral :=
  have both := flat_lists_are_uncorrelated.1 0.1 [0.0, 0.2, 0.5, 0.7, 1.0, 1e100]
    (by decide +kernel)
    (by decide +kernel)
  ⟨by decide +kernel, both.1, both.2,
    flat_lists_are_uncorrelated.2.2 0.1 [0.0, 0.2, 0.5, 0.7, 1.0, 1e100] (by decide)⟩

end Flat

end Resemblance
