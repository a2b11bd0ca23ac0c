import Resemblance.Timestamp

/-!
Dates. Every count of days belongs to one date of the calendar, and from the date the count is found
again.
-/

namespace Resemblance.Timestamp

/-- The year within an era to which a day of the era belongs; the years begin in March. -/
def yearOfDay (day : Nat) : Nat :=
  (day - day / 1460 + day / 36524 - day / 146096) / 365

def firstDay (year : Nat) : Nat :=
  365 * year + year / 4 - year / 100

theorem year_of_day_step (day : Nat) : yearOfDay day ≤ yearOfDay (day + 1) := by
  rw [yearOfDay, yearOfDay]
  apply Nat.div_le_div_right
  omega

theorem year_of_day_mono {day later : Nat} (order : day ≤ later) :
    yearOfDay day ≤ yearOfDay later := by
  induction order with
  | refl => exact Nat.le_refl _
  | step _ ih => exact Nat.le_trans ih (year_of_day_step _)

theorem year_of_first_days : ∀ year < 400,
    yearOfDay (firstDay year) = year ∧ (0 < year → yearOfDay (firstDay year - 1) = year - 1) := by
  decide +kernel

theorem day_in_year {day : Nat} (inEra : day ≤ 146096) :
    yearOfDay day ≤ 399 ∧ firstDay (yearOfDay day) ≤ day ∧
      (yearOfDay day < 399 → day < firstDay (yearOfDay day + 1)) := by
  have last : yearOfDay day ≤ 399 := year_of_day_mono inEra
  obtain ⟨-, before⟩ := year_of_first_days (yearOfDay day) (by omega)
  refine ⟨last, Nat.not_lt.1 fun early => ?_, fun inner => Nat.not_le.1 fun late => ?_⟩
  · rcases Nat.eq_zero_or_pos (yearOfDay day) with zero | positive
    · rw [zero] at early
      exact absurd early (Nat.not_lt_zero _)
    · have order : day ≤ firstDay (yearOfDay day) - 1 := by omega
      have earlier := year_of_day_mono order
      rw [before positive] at earlier
      omega
  · have later := year_of_day_mono late
    rw [(year_of_first_days (yearOfDay day + 1) (by omega)).1] at later
    omega

/-- Years that begin in March have a day more if the next February has. -/
theorem day_of_year_le {day : Nat} (inEra : day ≤ 146096) :
    firstDay (yearOfDay day) ≤ day ∧ day ≤ firstDay (yearOfDay day) + 365 ∧
      (day = firstDay (yearOfDay day) + 365 →
        (yearOfDay day + 1) % 4 = 0 ∧ ((yearOfDay day + 1) % 100 ≠ 0 ∨ yearOfDay day = 399)) := by
  obtain ⟨last, start, next⟩ := day_in_year inEra
  generalize yearOfDay day = year at *
  rcases Nat.lt_or_ge year 399 with inner | outer
  · have next := next inner
    have quarters : (year + 1) / 4 = year / 4 ∨
        (year + 1) % 4 = 0 ∧ (year + 1) / 4 = year / 4 + 1 := by omega
    have centuries : (year + 1) / 100 = year / 100 ∧ (year + 1) % 100 ≠ 0 ∨
        (year + 1) / 100 = year / 100 + 1 := by omega
    simp only [firstDay] at start next ⊢
    omega
  · obtain rfl : year = 399 := by omega
    have first : firstDay 399 = 145731 := rfl
    rw [first] at start ⊢
    omega

theorem month_of_day (day : Int) (low : 0 ≤ day) (high : day ≤ 365) :
    let month := (5 * day + 2) / 153
    0 ≤ month ∧ month ≤ 11 ∧ (153 * month + 2) / 5 ≤ day ∧
      (month = 11 → day - (153 * month + 2) / 5 ≤ 28 ∧
        (day ≤ 364 → day - (153 * month + 2) / 5 ≤ 27)) ∧
      (month = 1 ∨ month = 3 ∨ month = 6 ∨ month = 8 → day - (153 * month + 2) / 5 ≤ 29) ∧
      day - (153 * month + 2) / 5 ≤ 30 := by
  intro month
  omega

/-- A day by the era it belongs to, the year of the era, and the day of that year. -/
structure DayOf (days era : Int) (year day : Nat) : Prop where
  year_le : year ≤ 399
  day_le : day ≤ 365
  leap : day = 365 → (year + 1) % 4 = 0 ∧ ((year + 1) % 100 ≠ 0 ∨ year = 399)
  within : firstDay year + day ≤ 146096
  year_eq : yearOfDay (firstDay year + day) = year
  days_eq : days + 719468 = era * 146097 + (firstDay year + day : Nat)

theorem exists_day_of (days : Int) : ∃ era year day, DayOf days era year day := by
  obtain ⟨era, day, inEra, split⟩ : ∃ (era : Int) (day : Nat), day ≤ 146096 ∧
      days + 719468 = era * 146097 + day :=
    ⟨(days + 719468) / 146097, ((days + 719468) % 146097).toNat, by omega, by omega⟩
  obtain ⟨start, high, full⟩ := day_of_year_le inEra
  have joined : firstDay (yearOfDay day) + (day - firstDay (yearOfDay day)) = day := by omega
  refine ⟨era, yearOfDay day, day - firstDay (yearOfDay day), (day_in_year inEra).1, by omega,
    fun last => full (by omega), ?_, ?_, ?_⟩
  · rw [joined]
    exact inEra
  · rw [joined]
  · rw [joined]
    exact split

theorem DayOf.date_eq {days era : Int} {year day : Nat} (found : DayOf days era year day) :
    dateOfDays days =
      let fromMarch : Int := (5 * day + 2) / 153
      let month := (if fromMarch < 10 then fromMarch + 3 else fromMarch - 9).toNat
      ((year : Int) + era * 400 + (if month ≤ 2 then 1 else 0), month,
        ((day : Int) - (153 * fromMarch + 2) / 5 + 1).toNat) := by
  have within := found.within
  have split := found.days_eq
  have eraOf : (days + 719468).fdiv 146097 = era := by
    rw [Int.fdiv_eq_ediv_of_nonneg _ (by omega)]
    omega
  have ofEra : days + 719468 - era * 146097 = (firstDay year + day : Nat) := by omega
  have yearEq : (((firstDay year + day : Nat) : Int) - (firstDay year + day : Nat) / 1460 +
      (firstDay year + day : Nat) / 36524 - (firstDay year + day : Nat) / 146096) / 365 = year := by
    have year := found.year_eq
    rw [yearOfDay] at year
    omega
  have dayEq : ((firstDay year + day : Nat) : Int) -
      (365 * (year : Int) + (year : Int) / 4 - (year : Int) / 100) = day := by
    rw [firstDay]
    omega
  simp only [dateOfDays, eraOf, ofEra, yearEq, dayEq]

/-- The date that `dateOfDays` finds is one of the calendar, and of this very day. -/
theorem date_of_days (days : Int) :
    let date := dateOfDays days
    1 ≤ date.2.1 ∧ date.2.1 ≤ 12 ∧ 1 ≤ date.2.2 ∧ date.2.2 ≤ monthLength date.1 date.2.1 ∧
      daysOfDate date.1 date.2.1 date.2.2 = days := by
  obtain ⟨era, year, day, found⟩ := exists_day_of days
  have months := month_of_day day (by omega) (by have := found.day_le; omega)
  rw [found.date_eq]
  simp only at months ⊢
  generalize fromMarchEq : ((5 * (day : Int) + 2) / 153) = fromMarch at *
  obtain ⟨low, high, start, february, short, long⟩ := months
  have yearLe := found.year_le
  have leap := found.leap
  have days_eq := found.days_eq
  rw [firstDay] at days_eq
  have eraOf : ((year : Int) + era * 400).fdiv 400 = era := by
    rw [Int.fdiv_eq_ediv_of_nonneg _ (by omega)]
    omega
  have yearOf : (year : Int) + era * 400 - era * 400 = year := by omega
  split
  · rw [if_neg (by omega), Int.add_zero]
    refine ⟨by omega, by omega, by omega, ?_, ?_⟩
    · rw [monthLength, if_neg (by omega)]
      split <;> omega
    · have month : ((((fromMarch + 3).toNat + 9) % 12 : Nat) : Int) = fromMarch := by omega
      rw [daysOfDate, if_neg (by omega), eraOf, yearOf, month]
      omega
  · rw [if_pos (by omega)]
    refine ⟨by omega, by omega, by omega, ?_, ?_⟩
    · rw [monthLength]
      split
      · have isLeap : day = 365 → isLeapYear ((year : Int) + era * 400 + 1) = true := fun last => by
          have := leap last
          simp only [isLeapYear, Bool.and_eq_true, Bool.or_eq_true, beq_iff_eq, bne_iff_ne]
          omega
        split
        · omega
        · rename_i common
          have := mt isLeap common
          omega
      · split <;> omega
    · have month : ((((fromMarch - 9).toNat + 9) % 12 : Nat) : Int) = fromMarch := by omega
      rw [daysOfDate, if_pos (by omega), Int.add_sub_cancel, eraOf, yearOf, month]
      omega

end Resemblance.Timestamp
