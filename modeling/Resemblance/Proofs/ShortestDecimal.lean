import Resemblance.Proofs.Rounding

/-!
Shortest decimals read back. Every number of the interval around a double is rounded to that double,
in whatever way it is written; and the search for the shortest decimal finds one in the interval,
because the finest grid it tries is narrower than the interval.
-/

namespace Resemblance

namespace Binary

/-- The magnitudes that finite doubles have. -/
structure Canonical (binary : Binary) : Prop where
  least : -1074 ≤ binary.exponent
  greatest : binary.exponent ≤ 971
  small : binary.mantissa < 2 ^ 53
  full : binary.exponent = -1074 ∨ 2 ^ 52 ≤ binary.mantissa
  narrow : binary.narrowBelow = true ↔ binary.mantissa = 2 ^ 52 ∧ -1074 < binary.exponent

def magnitudeBits (binary : Binary) : Nat :=
  (binary.exponent + 1074).toNat * Nat.pow 2 52 + binary.mantissa

theorem canonical_of_bits (bits : UInt64)
    (finite : bits.toNat / Nat.pow 2 52 % Nat.pow 2 11 ≠ 2047) : (ofBits bits).Canonical := by
  have level : bits.toNat / Nat.pow 2 52 % Nat.pow 2 11 < 2048 := Nat.mod_lt _ (by decide)
  have fraction : bits.toNat % Nat.pow 2 52 < 2 ^ 52 := Nat.mod_lt _ (by decide)
  simp only [Nat.pow_eq] at *
  rw [ofBits]
  simp only [Nat.pow_eq]
  split
  · exact ⟨by simp, by simp, Nat.lt_trans fraction (by decide), by simp, by simp⟩
  · refine ⟨by simp; omega, by simp; omega, by simp; omega, by simp, ?_⟩
    simp only [Bool.and_eq_true, beq_iff_eq, decide_eq_true_eq]
    omega

theorem magnitude_bits_of_bits (bits : UInt64) :
    (ofBits bits).magnitudeBits = bits.toNat % 2 ^ 63 := by
  have cut : bits.toNat % 2 ^ 63 =
      bits.toNat / 2 ^ 52 % 2 ^ 11 * 2 ^ 52 + bits.toNat % 2 ^ 52 := by omega
  rw [magnitudeBits, ofBits, cut]
  simp only [Nat.pow_eq]
  split <;> simp <;> omega

end Binary

namespace Decimal

open Binary (Canonical)

/-- Whether a number lies in the interval around a magnitude. -/
structure Near (binary : Binary) (number : ℚ) : Prop where
  low : (Interval.ofBinary binary).low * (2 : ℚ) ^ (binary.exponent - 2) ≤ number
  high : number ≤ (Interval.ofBinary binary).high * (2 : ℚ) ^ (binary.exponent - 2)
  inside : (Interval.ofBinary binary).closed = true ∨
    (Interval.ofBinary binary).low * (2 : ℚ) ^ (binary.exponent - 2) < number ∧
      number < (Interval.ofBinary binary).high * (2 : ℚ) ^ (binary.exponent - 2)

section Near

variable {binary : Binary} {number : ℚ}

theorem quarter_place (exponent : Int) : (2 : ℚ) ^ (exponent - 2) = 2 ^ exponent / 4 := by
  rw [zpow_sub₀ (by norm_num)]
  norm_num

theorem interval_low (positive : 0 < binary.mantissa) :
    ((Interval.ofBinary binary).low : ℚ) =
      4 * binary.mantissa - (if binary.narrowBelow then 1 else 2) := by
  rw [Interval.ofBinary]
  split
  · rw [Nat.cast_sub (by omega)]
    push_cast
    rfl
  · rw [Nat.cast_sub (by omega)]
    push_cast
    rfl

theorem interval_high : ((Interval.ofBinary binary).high : ℚ) = 4 * binary.mantissa + 2 := by
  rw [Interval.ofBinary]
  push_cast
  rfl

theorem power_place (places : Nat) (exponent : Int) :
    (2 : ℚ) ^ (places + exponent) = 2 ^ places * 2 ^ exponent := by
  rw [zpow_add₀ (by norm_num), zpow_natCast]

theorem Near.lower (near : Near binary number) (positive : 0 < binary.mantissa) :
    (4 * binary.mantissa - (if binary.narrowBelow then 1 else 2)) *
      ((2 : ℚ) ^ binary.exponent / 4) ≤ number := by
  have low := near.low
  rwa [quarter_place, interval_low positive] at low

theorem Near.upper (near : Near binary number) :
    number ≤ (4 * binary.mantissa + 2) * ((2 : ℚ) ^ binary.exponent / 4) := by
  have high := near.high
  rwa [quarter_place, interval_high] at high

/-- A number near a double from below a power of two belongs to the places below it, where it is
rounded up to the power. -/
theorem Near.rounds_below (canonical : Canonical binary) (positive : 0 < binary.mantissa)
    (near : Near binary number) (narrow : binary.narrowBelow = true)
    (under : number < 2 ^ (52 + binary.exponent)) :
    RoundsTo number (2 ^ 53) (binary.exponent - 1) := by
  have unit : (0 : ℚ) < 2 ^ binary.exponent := by positivity
  obtain ⟨mantissa, above⟩ := canonical.narrow.1 narrow
  have low := near.lower positive
  rw [narrow, mantissa, if_pos rfl] at low
  push_cast at low
  refine ⟨by omega, .inr ?_, ?_, ?_, ?_, .inl rfl⟩
  · rw [show 52 + (binary.exponent - 1) = (51 : Nat) + binary.exponent by omega, power_place]
    nlinarith
  · rwa [show 53 + (binary.exponent - 1) = 52 + binary.exponent by omega]
  · rw [zpow_sub_one₀ (by norm_num)]
    push_cast
    linarith
  · rw [show (52 : Int) + binary.exponent = (52 : Nat) + binary.exponent from rfl, power_place]
      at under
    rw [zpow_sub_one₀ (by norm_num)]
    push_cast
    linarith

theorem Near.rounds_here (canonical : Canonical binary) (positive : 0 < binary.mantissa)
    (near : Near binary number)
    (wide : binary.narrowBelow = false ∨ 2 ^ (52 + binary.exponent) ≤ number) :
    RoundsTo number binary.mantissa binary.exponent := by
  have unit : (0 : ℚ) < 2 ^ binary.exponent := by positivity
  have low := near.lower positive
  have high := near.upper
  have inside := near.inside
  rw [quarter_place, interval_low positive, interval_high] at inside
  have lower : 2 * binary.mantissa * (2 : ℚ) ^ binary.exponent ≤
      2 * number + 2 ^ binary.exponent := by
    split at low <;> linarith
  refine ⟨canonical.least, ?_, ?_, lower, by linarith, ?_⟩
  · rcases canonical.full with lowest | full
    · exact .inl lowest
    · rcases Int.le_iff_eq_or_lt.1 canonical.least with lowest | above
      · exact .inl lowest.symm
      · refine .inr (wide.elim (fun wide => ?_) id)
        have other : binary.mantissa ≠ 2 ^ 52 := fun same => by
          simp [canonical.narrow.2 ⟨same, above⟩] at wide
        have greater : (2 : ℚ) ^ 52 + 1 ≤ binary.mantissa := by
          exact_mod_cast Nat.lt_of_le_of_ne full other.symm
        rw [show (52 : Int) + binary.exponent = (52 : Nat) + binary.exponent from rfl, power_place]
        nlinarith
  · have small : (binary.mantissa : ℚ) + 1 ≤ 2 ^ 53 := by exact_mod_cast canonical.small
    rw [show (53 : Int) + binary.exponent = (53 : Nat) + binary.exponent from rfl, power_place]
    nlinarith
  · rw [Interval.ofBinary] at inside
    simp only [beq_iff_eq] at inside
    refine inside.imp_right fun inside => ⟨?_, by linarith⟩
    have := inside.1
    split at this <;> linarith

theorem Near.rounds (canonical : Canonical binary) (positive : 0 < binary.mantissa)
    (near : Near binary number) :
    ∃ mantissa q, RoundsTo number mantissa q ∧
      (q + 1074).toNat * Nat.pow 2 52 + mantissa = binary.magnitudeBits := by
  by_cases under : binary.narrowBelow = true ∧ number < 2 ^ (52 + binary.exponent)
  · obtain ⟨narrow, under⟩ := under
    refine ⟨2 ^ 53, binary.exponent - 1, near.rounds_below canonical positive narrow under, ?_⟩
    obtain ⟨mantissa, above⟩ := canonical.narrow.1 narrow
    rw [Binary.magnitudeBits, mantissa]
    simp only [Nat.pow_eq]
    omega
  · rw [not_and_or, Bool.not_eq_true, not_lt] at under
    exact ⟨binary.mantissa, binary.exponent, near.rounds_here canonical positive under, rfl⟩

theorem Near.nearest_bits {num den : Nat} (num_pos : 0 < num) (den_pos : 0 < den)
    (canonical : Canonical binary) (positive : 0 < binary.mantissa)
    (near : Near binary ((num : ℚ) / den)) : nearestBits num den = some binary.magnitudeBits := by
  obtain ⟨mantissa, q, rounds, bits⟩ := near.rounds canonical positive
  rw [← bits]
  refine nearest_bits_eq num_pos den_pos rounds ?_
  rw [bits, Binary.magnitudeBits]
  have := canonical.small
  have := canonical.greatest
  simp only [Nat.pow_eq]
  omega

end Near

section Reading

variable {binary : Binary}

theorem digit_count_bounds {digits : Nat} (positive : 0 < digits) :
    10 ^ (digitCount digits - 1) ≤ digits ∧ digits < 10 ^ digitCount digits := by
  have least : 0 < digitCount digits := Nat.length_toDigits_pos
  constructor
  · by_contra less
    have several : 0 < digitCount digits - 1 := by
      by_contra none
      rw [Nat.eq_zero_of_not_pos none] at less
      omega
    have := (Nat.length_toDigits_le_iff (by omega) several).2 (not_le.1 less)
    rw [digitCount] at *
    omega
  · exact (Nat.length_toDigits_le_iff (by omega) least).1 (Nat.le_refl _)

theorem value_bounds {decimal : Decimal} (positive : 0 < decimal.digits) :
    (10 : ℚ) ^ ((digitCount decimal.digits : Int) + decimal.exponent - 1) ≤ decimal.value ∧
      decimal.value < 10 ^ ((digitCount decimal.digits : Int) + decimal.exponent) := by
  obtain ⟨low, high⟩ := digit_count_bounds positive
  have least : 0 < digitCount decimal.digits := Nat.length_toDigits_pos
  have unit : (0 : ℚ) < 10 ^ decimal.exponent := by positivity
  constructor
  · rw [show (digitCount decimal.digits : Int) + decimal.exponent - 1 =
      ((digitCount decimal.digits - 1 : Nat) : Int) + decimal.exponent by omega,
      zpow_add₀ (by norm_num), zpow_natCast, value]
    exact mul_le_mul_of_nonneg_right (by exact_mod_cast low) unit.le
  · rw [zpow_add₀ (by norm_num), zpow_natCast, value]
    exact mul_lt_mul_of_pos_right (by exact_mod_cast high) unit

theorem Near.bounds {number : ℚ} (canonical : Canonical binary) (positive : 0 < binary.mantissa)
    (near : Near binary number) : (2 : ℚ) ^ (-1075 : Int) ≤ number ∧ number ≤ 2 ^ (1024 : Int) := by
  have low := near.low
  have high := near.high
  rw [interval_low positive, quarter_place] at low
  rw [interval_high, quarter_place] at high
  have some : (1 : ℚ) ≤ binary.mantissa := by exact_mod_cast positive
  have small : (binary.mantissa : ℚ) + 1 ≤ 2 ^ 53 := by exact_mod_cast canonical.small
  have least : (2 : ℚ) ^ (-1074 : Int) ≤ 2 ^ binary.exponent :=
    zpow_le_zpow_right₀ (by norm_num) canonical.least
  have greatest : (2 : ℚ) ^ binary.exponent ≤ 2 ^ (971 : Int) :=
    zpow_le_zpow_right₀ (by norm_num) canonical.greatest
  have unit : (0 : ℚ) < 2 ^ binary.exponent := by positivity
  constructor
  · rw [show (-1075 : Int) = -1074 - 1 by rfl, zpow_sub_one₀ (by norm_num)]
    split at low <;> nlinarith
  · calc number ≤ (4 * binary.mantissa + 2) * (2 ^ binary.exponent / 4) := high
      _ ≤ 2 ^ 53 * 2 ^ binary.exponent := by nlinarith
      _ ≤ 2 ^ 53 * 2 ^ (971 : Int) := by gcongr
      _ = 2 ^ (1024 : Int) := by
          rw [← zpow_natCast, ← zpow_add₀ (by norm_num)]
          rfl

theorem Near.to_bits {decimal : Decimal} (canonical : Canonical binary)
    (positive : 0 < binary.mantissa) (near : Near binary decimal.value) :
    decimal.toBits? = some binary.magnitudeBits := by
  obtain ⟨least, greatest⟩ := near.bounds canonical positive
  have number : 0 < decimal.value := lt_of_lt_of_le (by positivity) least
  have digits : 0 < decimal.digits := by
    by_contra none
    rw [value, Nat.eq_zero_of_not_pos none] at number
    simp at number
  obtain ⟨low, high⟩ := value_bounds digits
  have apart : (2 : ℚ) ^ (1075 : Int) < 10 ^ (400 : Int) := by
    exact_mod_cast (by decide +kernel : 2 ^ 1075 < 10 ^ 400)
  have notSmall : ¬ (digitCount decimal.digits : Int) + decimal.exponent < -400 := fun small => by
    have tiny : decimal.value < 10 ^ (-400 : Int) :=
      high.trans_le (zpow_le_zpow_right₀ (by norm_num) small.le)
    refine absurd (least.trans_lt tiny) (not_lt.2 ?_)
    rw [zpow_neg, zpow_neg]
    exact inv_anti₀ (by positivity) apart.le
  have notGreat : ¬ (digitCount decimal.digits : Int) + decimal.exponent > 400 := fun great => by
    have huge : (10 : ℚ) ^ (400 : Int) ≤ decimal.value :=
      (zpow_le_zpow_right₀ (by norm_num) (by omega)).trans low
    have wide : (2 : ℚ) ^ (1024 : Int) ≤ 2 ^ (1075 : Int) :=
      zpow_le_zpow_right₀ (by norm_num) (by norm_num)
    exact absurd (huge.trans (greatest.trans wide)) (not_le.2 apart)
  rw [toBits?]
  rw [if_neg (by simp [Nat.ne_of_gt digits]; omega), if_neg notGreat]
  refine Near.nearest_bits (Nat.mul_pos digits (Nat.pow_pos (by omega))) (Nat.pow_pos (by omega))
    canonical positive ?_
  rwa [← value_eq_quotient]

end Reading

section Search

variable {binary : Binary} {decimal : Decimal} {tie : Tie} {exponent : Int}

/-- The common denominators under which a count of twos and a count of tens are compared. -/
theorem grid_quotients (twos exponent : Int) :
    (2 : ℚ) ^ twos = ((Nat.pow 2 twos.toNat * Nat.pow 10 (-exponent).toNat : Nat) : ℚ) /
        (2 ^ (-twos).toNat * 10 ^ (-exponent).toNat) ∧
      (10 : ℚ) ^ exponent = ((Nat.pow 10 exponent.toNat * Nat.pow 2 (-twos).toNat : Nat) : ℚ) /
        (2 ^ (-twos).toNat * 10 ^ (-exponent).toNat) := by
  simp only [Nat.pow_eq, Nat.cast_mul, Nat.cast_pow, Nat.cast_ofNat]
  constructor
  · rw [zpow_eq_quotient]
    field_simp
  · rw [zpow_eq_quotient]
    field_simp

theorem above_place_iff (twos exponent : Int) (count digits : Nat) :
    (count : ℚ) * 2 ^ twos ≤ digits * 10 ^ exponent ↔
      count * (Nat.pow 2 twos.toNat * Nat.pow 10 (-exponent).toNat) ≤
        digits * (Nat.pow 10 exponent.toNat * Nat.pow 2 (-twos).toNat) := by
  have common : (0 : ℚ) < 2 ^ (-twos).toNat * 10 ^ (-exponent).toNat := by positivity
  rw [(grid_quotients twos exponent).1, (grid_quotients twos exponent).2, ← mul_div_assoc,
    ← mul_div_assoc, div_le_div_iff_of_pos_right common]
  exact_mod_cast Iff.rfl

theorem below_place_iff (twos exponent : Int) (count digits : Nat) :
    (digits : ℚ) * 10 ^ exponent ≤ count * 2 ^ twos ↔
      digits * (Nat.pow 10 exponent.toNat * Nat.pow 2 (-twos).toNat) ≤
        count * (Nat.pow 2 twos.toNat * Nat.pow 10 (-exponent).toNat) := by
  have common : (0 : ℚ) < 2 ^ (-twos).toNat * 10 ^ (-exponent).toNat := by positivity
  rw [(grid_quotients twos exponent).1, (grid_quotients twos exponent).2, ← mul_div_assoc,
    ← mul_div_assoc, div_le_div_iff_of_pos_right common]
  exact_mod_cast Iff.rfl

theorem near_of_admits {digits : Nat}
    (admitted : (Interval.ofBinary binary).admits
      (Nat.pow 2 (binary.exponent - 2).toNat * Nat.pow 10 (-exponent).toNat)
      (digits * (Nat.pow 10 exponent.toNat * Nat.pow 2 (-(binary.exponent - 2)).toNat)) = true) :
    Near binary (value ⟨digits, exponent⟩) := by
  rw [Interval.admits] at admitted
  split at admitted
  · simp only [Bool.and_eq_true, decide_eq_true_eq] at admitted
    exact ⟨(above_place_iff _ _ _ _).2 admitted.1, (below_place_iff _ _ _ _).2 admitted.2, .inl ‹_›⟩
  · simp only [Bool.and_eq_true, decide_eq_true_eq] at admitted
    have low := not_le.1 ((below_place_iff _ _ _ _).not.2 (Nat.not_le.2 admitted.1))
    have high := not_le.1 ((above_place_iff _ _ _ _).not.2 (Nat.not_le.2 admitted.2))
    exact ⟨low.le, high.le, .inr ⟨low, high⟩⟩

theorem on_grid_near (found : onGrid tie binary exponent = some decimal) :
    Near binary decimal.value := by
  rw [onGrid] at found
  split at found
  · obtain rfl := Option.some.inj found
    rename_i upper
    exact near_of_admits (Bool.and_eq_true_iff.1 upper).1
  · split at found
    · obtain rfl := Option.some.inj found
      exact near_of_admits ‹_›
    · exact nomatch found

theorem search_down_near {fuel : Nat} (found : searchDown tie binary fuel exponent = some decimal) :
    Near binary decimal.value := by
  induction fuel generalizing exponent with
  | zero => exact nomatch found
  | succ fuel ih =>
      rw [searchDown] at found
      split at found
      · obtain rfl := Option.some.inj found
        exact on_grid_near ‹_›
      · exact ih found

/-- One of the two neighbours on a grid lies in an interval that is wider than the grid's step. -/
theorem Interval.admits_neighbour {interval : Interval} {scale step : Nat} (step_pos : 0 < step)
    (low : interval.low < interval.value) (high : interval.value < interval.high)
    (wide : interval.low + 3 ≤ interval.high) (fine : step < 3 * scale) :
    interval.admits scale (interval.value * scale / step * step) ∨
      interval.admits scale ((interval.value * scale / step + 1) * step) := by
  have under : interval.value * scale / step * step ≤ interval.value * scale :=
    Nat.div_mul_le_self _ _
  have above : interval.value * scale < (interval.value * scale / step + 1) * step := by
    rw [Nat.mul_comm _ step]
    exact Nat.lt_mul_div_succ _ step_pos
  have scale_pos : 0 < scale := by omega
  have low := Nat.mul_lt_mul_of_pos_right low scale_pos
  have high := Nat.mul_lt_mul_of_pos_right high scale_pos
  have wide := Nat.mul_le_mul_right scale wide
  rw [Nat.add_mul] at above wide ⊢
  generalize interval.value * scale / step * step = point at *
  by_contra neither
  rw [not_or, admits, admits] at neither
  split at neither
  · simp only [Bool.and_eq_true, decide_eq_true_eq] at neither
    omega
  · simp only [Bool.and_eq_true, decide_eq_true_eq] at neither
    omega

theorem on_grid_found (positive : 0 < binary.mantissa)
    (fine : (10 : ℚ) ^ exponent < 3 * 2 ^ (binary.exponent - 2)) :
    (onGrid tie binary exponent).isSome := by
  have step_pos : 0 < Nat.pow 10 exponent.toNat * Nat.pow 2 (-(binary.exponent - 2)).toNat :=
    Nat.mul_pos (Nat.pow_pos (by omega)) (Nat.pow_pos (by omega))
  have fine := not_le.2 fine
  have counted := above_place_iff (binary.exponent - 2) exponent 3 1
  rw [Nat.cast_one, one_mul, one_mul, Nat.cast_ofNat] at counted
  have neighbour := (Interval.ofBinary binary).admits_neighbour step_pos
    (by simp only [Interval.ofBinary]; split <;> omega) (by simp only [Interval.ofBinary]; omega)
    (by simp only [Interval.ofBinary]; split <;> omega) (Nat.not_le.1 (counted.not.1 fine))
  rw [onGrid]
  split
  · rfl
  · split
    · rfl
    · rename_i notUpper notLower
      refine absurd ?_ notUpper
      rw [neighbour.resolve_left notLower, Bool.eq_false_of_not_eq_true notLower]
      rfl

theorem search_down_found {fuel : Nat} (steps : Nat) (within : steps < fuel)
    (found : (onGrid tie binary (exponent - steps)).isSome) :
    (searchDown tie binary fuel exponent).isSome := by
  induction fuel generalizing exponent steps with
  | zero => omega
  | succ fuel ih =>
      rw [searchDown]
      cases here : onGrid tie binary exponent with
      | some decimal => rfl
      | none =>
          cases steps with
          | zero => simp [here] at found
          | succ steps =>
              refine ih steps (by omega) ?_
              rwa [show exponent - 1 - (steps : Int) = exponent - (steps + 1 : Nat) by omega]

/-- At every binary place of a double, the last grid of the search is finer than the interval. A
grid at the end of a block of sixteen places is fine enough for its beginning. -/
theorem last_grid_fine_in_block : ∀ block : Fin 132,
    let place : Int := 16 * ((block : Int) - 68)
    let exponent : Int := (place + 16) * 30103 / 100000 - 22
    ¬ 3 * (Nat.pow 2 (place - 54).toNat * Nat.pow 10 (-exponent).toNat) ≤
      1 * (Nat.pow 10 exponent.toNat * Nat.pow 2 (-(place - 54)).toNat) := by
  decide +kernel

theorem last_grid_fine {place : Int} (least : -1074 ≤ place) (greatest : place ≤ 1023) :
    (10 : ℚ) ^ (place * 30103 / 100000 - 22) < 3 * 2 ^ (place - 54) := by
  obtain ⟨block, found⟩ : ∃ block : Fin 132, place / 16 = (block : Int) - 68 :=
    ⟨⟨(place / 16 + 68).toNat, by omega⟩, by simp only; omega⟩
  have fine := (above_place_iff _ _ _ _).not.2 (last_grid_fine_in_block block)
  rw [Nat.cast_one, one_mul, Nat.cast_ofNat, not_le] at fine
  calc (10 : ℚ) ^ (place * 30103 / 100000 - 22)
      ≤ 10 ^ ((16 * ((block : Int) - 68) + 16) * 30103 / 100000 - 22) :=
        zpow_le_zpow_right₀ (by norm_num) (by omega)
    _ < 3 * 2 ^ (16 * ((block : Int) - 68) - 54) := fine
    _ ≤ 3 * 2 ^ (place - 54) :=
        mul_le_mul_of_nonneg_left (zpow_le_zpow_right₀ (by norm_num) (by omega)) (by norm_num)

theorem search_found (tie : Tie) (canonical : Canonical binary) (positive : 0 < binary.mantissa) :
    (searchDown tie binary 24 (startExponent binary)).isSome := by
  have short : Nat.log2 binary.mantissa < 53 :=
    (Nat.log2_lt (Nat.ne_of_gt positive)).2 canonical.small
  have least := canonical.least
  have greatest := canonical.greatest
  refine search_down_found 23 (by omega) (on_grid_found positive ?_)
  calc (10 : ℚ) ^ (startExponent binary - (23 : Nat))
      = 10 ^ (((Nat.log2 binary.mantissa : Int) + binary.exponent) * 30103 / 100000 - 22) := by
        rw [startExponent]
        congr 1
        omega
    _ < 3 * 2 ^ ((Nat.log2 binary.mantissa : Int) + binary.exponent - 54) :=
        last_grid_fine (by omega) (by omega)
    _ ≤ 3 * 2 ^ (binary.exponent - 2) :=
        mul_le_mul_of_nonneg_left (zpow_le_zpow_right₀ (by norm_num) (by omega)) (by norm_num)

/-- The shortest decimal of a magnitude reads back as it, also after it was written in another
way. -/
theorem shortest_to_bits (canonical : Canonical binary)
    (same : decimal.value = (shortest tie binary).value) :
    decimal.toBits? = some binary.magnitudeBits := by
  by_cases zero : binary.mantissa = 0
  · rw [shortest, if_pos zero] at same
    have digits : decimal.digits = 0 := by
      by_contra some
      have unit : (0 : ℚ) < 10 ^ decimal.exponent := by positivity
      simp [value, some, unit.ne'] at same
    have place : binary.exponent = -1074 := canonical.full.resolve_right (by omega)
    rw [toBits?]
    simp [digits, Binary.magnitudeBits, zero, place]
  · have positive := Nat.pos_of_ne_zero zero
    obtain ⟨found, search⟩ := Option.isSome_iff_exists.1 (search_found tie canonical positive)
    rw [shortest, if_neg zero, search, Option.getD_some] at same
    refine Near.to_bits canonical positive ?_
    rw [same]
    exact search_down_near search

end Search

theorem to_bits_lt {decimal : Decimal} {bits : Nat} (read : decimal.toBits? = some bits) :
    bits < 2047 * 2 ^ 52 := by
  rw [toBits?] at read
  split at read
  · obtain rfl := Option.some.inj read
    decide
  · split at read
    · exact nomatch read
    · exact nearest_bits_lt read

end Decimal
end Resemblance
