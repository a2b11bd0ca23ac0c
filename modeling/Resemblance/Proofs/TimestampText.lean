import Resemblance.Proofs.Calendar
import Resemblance.Proofs.NumberText

/-!
Written timestamps read back: every part of the date and of the time of day stands in its number of
digits, and no part goes over into the next.
-/

namespace Resemblance.Timestamp

theorem has_dates_iff {year : Int} : hasDates year = true ↔ -262143 ≤ year ∧ year ≤ 262142 := by
  rw [hasDates, Bool.and_eq_true, decide_eq_true_eq, decide_eq_true_eq]

/-- Nanoseconds stay within the second; only the last second of a minute may hold an inserted
one. -/
def Exact (time : Timestamp) : Prop :=
  time.nanos < 1000000000 ∨ time.nanos < 2000000000 ∧ time.seconds % 60 = 59

section Parts

variable {width n : Nat} {text rest : List Char}

/-- Texts that do not begin with a blank are left as they are before a part is read. -/
def Solid (text : List Char) : Prop :=
  ∀ c ∈ text.head?, Text.isBlank c = false

theorem skip_space_of_solid (solid : Solid text) : skipSpace text = text := by
  cases text with
  | nil => rfl
  | cons c text => exact List.dropWhile_cons_of_neg (by simp [solid c rfl])

theorem not_blank_of_digit {c : Char} (digit : c.isDigit = true) : Text.isBlank c = false := by
  simp only [Char.isDigit, Bool.and_eq_true, decide_eq_true_eq] at digit
  have low : 48 ≤ c.toNat := digit.1
  have high : c.toNat ≤ 57 := digit.2
  have other : (c == ' ') = false := by
    rw [beq_eq_false_iff_ne]
    rintro rfl
    exact absurd low (by decide)
  rw [Text.isBlank, if_pos (by omega), other]
  simp
  omega

theorem mem_zero_padded {c : Char} (member : c ∈ zeroPadded width n) : c.isDigit = true := by
  rcases List.mem_append.1 member with zero | digit
  · rw [List.eq_of_mem_replicate zero]
    rfl
  · exact isDigit_of_mem_digitChars digit

theorem length_zero_padded (some : 0 < width) (fits : n < 10 ^ width) :
    (zeroPadded width n).length = width := by
  have short := (Nat.length_toDigits_le_iff (b := 10) (by omega) some).2 fits
  simp only [zeroPadded, List.length_append, List.length_replicate]
  omega

theorem digits_value_zero_padded : digitsValue (zeroPadded width n) = n := by
  show Json.natOfDigits (zeroPadded width n) = n
  rw [zeroPadded, Json.natOfDigits_append, Json.natOfDigits_zeros]
  exact (Nat.zero_add _).trans (Json.natOfDigits_digitChars n)

theorem solid_zero_padded (some : 0 < width) (fits : n < 10 ^ width) (rest : List Char) :
    Solid (zeroPadded width n ++ rest) := by
  intro c here
  have filled : zeroPadded width n ≠ [] :=
    List.ne_nil_of_length_pos (by rw [length_zero_padded some fits]; exact some)
  rw [List.head?_append_of_ne_nil _ filled] at here
  exact not_blank_of_digit (mem_zero_padded (List.mem_of_head? here))

theorem read_number_zero_padded (some : 0 < width) (fits : n < 10 ^ width) (rest : List Char) :
    readNumber width (zeroPadded width n ++ rest) = .some (n, rest) := by
  have length := length_zero_padded some fits
  have taken : (zeroPadded width n ++ rest).take width = zeroPadded width n :=
    List.take_left' length
  have all := takeWhile_digits (fun c => @mem_zero_padded width n c)
    (by simp [EndsDigits] : EndsDigits [])
  rw [List.append_nil] at all
  have filled : (zeroPadded width n).isEmpty = false :=
    List.isEmpty_eq_false_iff.2 (List.ne_nil_of_length_pos (by omega))
  rw [readNumber, taken, all, filled, digits_value_zero_padded, List.drop_left]
  rfl

theorem read_fraction_zero_padded (some : 0 < width) (most : width ≤ 9) (fits : n < 10 ^ width) :
    readFraction ('.' :: (zeroPadded width n ++ ['Z'])) = .some (n * 10 ^ (9 - width), ['Z']) := by
  have length := length_zero_padded some fits
  have digits := takeWhile_digits (fun c => @mem_zero_padded width n c)
    (by simp [EndsDigits] : EndsDigits ['Z'])
  have filled : (zeroPadded width n).isEmpty = false :=
    List.isEmpty_eq_false_iff.2 (List.ne_nil_of_length_pos (by omega))
  have used : (zeroPadded width n).take 9 = zeroPadded width n := List.take_of_length_le (by omega)
  simp only [readFraction]
  rw [digits, used, filled, digits_value_zero_padded, length, List.drop_left' length]
  rfl

theorem read_fraction_written {nanos : Nat} (small : nanos < 1000000000) :
    readFraction (writeFraction nanos ++ ['Z']) = some (nanos, ['Z']) := by
  rw [writeFraction]
  split
  · subst_vars
    rfl
  · split
    · rw [List.cons_append, read_fraction_zero_padded (by omega) (by omega) (by omega)]
      have : nanos / 1000000 * 10 ^ (9 - 3) = nanos := by omega
      rw [this]
    · split
      · rw [List.cons_append, read_fraction_zero_padded (by omega) (by omega) (by omega)]
        have : nanos / 1000 * 10 ^ (9 - 6) = nanos := by omega
        rw [this]
      · rw [List.cons_append, read_fraction_zero_padded (by omega) (by omega) (by omega)]
        have : nanos * 10 ^ (9 - 9) = nanos := Nat.mul_one _
        rw [this]

theorem read_number_signed (rest : List Char) :
    readNumber (zeroPadded 4 n ++ '-' :: rest).length (zeroPadded 4 n ++ '-' :: rest) =
      some (n, '-' :: rest) := by
  have digits := takeWhile_digits (fun c => @mem_zero_padded 4 n c)
    (by simp [EndsDigits] : EndsDigits ('-' :: rest))
  have filled : (zeroPadded 4 n).isEmpty = false :=
    List.isEmpty_eq_false_iff.2 fun none => digitChars_ne_nil n (List.append_eq_nil_iff.1 none).2
  rw [readNumber, List.take_length, digits, filled, digits_value_zero_padded, List.drop_left]
  rfl

theorem read_year_written (year : Int) (rest : List Char) :
    readYear (writeYear year ++ '-' :: rest) = some (year, '-' :: rest) := by
  rw [writeYear]
  split
  · rename_i range
    have fits : year.toNat < 10 ^ 4 := by omega
    have sign (c : Char) (notDigit : c.isDigit = false) (tail : List Char) :
        zeroPadded 4 year.toNat ++ '-' :: rest ≠ c :: tail := fun equal => by
      have length := length_zero_padded (by omega) fits
      cases text : zeroPadded 4 year.toNat with
      | nil => simp [text] at length
      | cons first more =>
          rw [text] at equal
          obtain rfl := (List.cons.inj equal).1
          have digit := mem_zero_padded
            (text ▸ List.mem_cons_self : first ∈ zeroPadded 4 year.toNat)
          simp [notDigit] at digit
    rw [readYear]
    · rw [read_number_zero_padded (by omega) fits]
      simp [range.1]
    · exact sign '-' rfl
    · exact sign '+' rfl
  · rw [List.cons_append]
    split
    · simp only [readYear, read_number_signed, Option.map_some]
      rw [show -(year.natAbs : Int) = year by omega]
    · simp only [readYear, read_number_signed, Option.map_some]
      rw [show (year.natAbs : Int) = year by omega]

theorem solid_year (year : Int) (rest : List Char) : Solid (writeYear year ++ rest) := by
  rw [writeYear]
  split
  · exact solid_zero_padded (by omega) (by omega) rest
  · intro c here
    obtain rfl := Option.some.inj here
    split <;> decide

end Parts

theorem fdiv_day (seconds : Int) : seconds.fdiv 86400 = seconds / 86400 :=
  Int.fdiv_eq_ediv_of_nonneg _ (by omega)

theorem skip_space_sign {c : Char} (rest : List Char) (sign : Text.isBlank c = false) :
    skipSpace (c :: rest) = c :: rest :=
  skip_space_of_solid fun c' here => by
    obtain rfl := Option.some.inj here
    exact sign

theorem read_one_here (c : Char) (rest : List Char) : readOne [c] (c :: rest) = some rest := by
  simp [readOne]

theorem read_fields {time : Timestamp} {year : Int} {month day hour minute second nanos : Nat}
    (seconds : time.seconds = daysOfDate year month day * 86400 +
      (hour * 3600 + minute * 60 + (if second = 60 then 59 else second) : Nat))
    (ofSecond : time.nanos = if second = 60 then nanos + 1000000000 else nanos)
    (dates : hasDates year = true) (dates' : hasDates time.year = true)
    (someMonth : 1 ≤ month) (lastMonth : month ≤ 12) (someDay : 1 ≤ day)
    (lastDay : day ≤ monthLength year month)
    (lastHour : hour ≤ 23) (lastMinute : minute ≤ 59) (lastSecond : second ≤ 60)
    (small : nanos < 1000000000) :
    read (String.ofList
      (writeYear year ++ '-' :: zeroPadded 2 month ++ '-' :: zeroPadded 2 day ++
        'T' :: zeroPadded 2 hour ++ ':' :: zeroPadded 2 minute ++ ':' :: zeroPadded 2 second ++
        writeFraction nanos ++ ['Z'])) =
      some time := by
  have short : monthLength year month ≤ 31 := by
    rw [monthLength]
    split
    · split <;> omega
    · split <;> omega
  have number (n : Nat) (fits : n < 100) (rest : List Char) :
      readNumber 2 (skipSpace (zeroPadded 2 n ++ rest)) = some (n, rest) := by
    rw [skip_space_of_solid (solid_zero_padded (by omega) fits rest)]
    exact read_number_zero_padded (by omega) fits rest
  have sign (c : Char) (solid : Text.isBlank c = false) (rest : List Char) :
      readOne [c] (skipSpace (c :: rest)) = some rest := by
    rw [skip_space_sign rest solid, read_one_here]
  have first (rest : List Char) :
      readYear (skipSpace (writeYear year ++ '-' :: rest)) = some (year, '-' :: rest) := by
    rw [skip_space_of_solid (solid_year year _), read_year_written]
  have zone : readZone (skipSpace ['Z']) = some (0, []) := by
    rw [skip_space_sign _ (by decide)]
    rfl
  have hyphen : Text.isBlank '-' = false := by decide
  have colon : Text.isBlank ':' = false := by decide
  have atT (rest : List Char) : readOne ['T', 't', ' '] ('T' :: rest) = some rest := rfl
  rw [read, String.toList_ofList]
  simp only [List.append_assoc, List.cons_append]
  refine Option.bind_eq_some_iff.2 ⟨_, first _, ?_⟩
  refine Option.bind_eq_some_iff.2 ⟨_, sign '-' hyphen _, ?_⟩
  refine Option.bind_eq_some_iff.2 ⟨_, number month (by omega) _, ?_⟩
  refine Option.bind_eq_some_iff.2 ⟨_, sign '-' hyphen _, ?_⟩
  refine Option.bind_eq_some_iff.2 ⟨_, number day (by omega) _, ?_⟩
  refine Option.bind_eq_some_iff.2 ⟨_, atT _, ?_⟩
  refine Option.bind_eq_some_iff.2 ⟨_, number hour (by omega) _, ?_⟩
  refine Option.bind_eq_some_iff.2 ⟨_, sign ':' colon _, ?_⟩
  refine Option.bind_eq_some_iff.2 ⟨_, number minute (by omega) _, ?_⟩
  refine Option.bind_eq_some_iff.2 ⟨_, sign ':' colon _, ?_⟩
  refine Option.bind_eq_some_iff.2 ⟨_, number second (by omega) _, ?_⟩
  refine Option.bind_eq_some_iff.2 ⟨_, read_fraction_written small, ?_⟩
  refine Option.bind_eq_some_iff.2 ⟨_, zone, ?_⟩
  obtain ⟨_, _⟩ := time
  subst seconds ofSecond
  dsimp only
  rw [if_neg (by decide), if_neg (by omega), if_neg (by omega),
    if_neg (by simp [dates]), Int.sub_zero, if_pos dates']

/-- The written form of a timestamp reads back as that timestamp, in all years that are read. -/
theorem read_write {time : Timestamp} (exact : time.Exact) (low : -262143 ≤ time.year)
    (high : time.year ≤ 262142) : read time.write = some time := by
  have dates := has_dates_iff.2 ⟨low, high⟩
  obtain ⟨seconds, nanos⟩ := time
  have date := date_of_days (seconds.fdiv 86400)
  rw [Timestamp.year] at dates
  rw [write]
  simp only at date dates ⊢
  obtain ⟨someMonth, lastMonth, someDay, lastDay, days⟩ := date
  have place := fdiv_day seconds
  by_cases leap : 1000000000 ≤ nanos
  · have last : seconds % 60 = 59 := (exact.resolve_left (Nat.not_lt.2 leap)).2
    have most : nanos < 2000000000 := (exact.resolve_left (Nat.not_lt.2 leap)).1
    rw [if_pos leap, if_pos leap]
    refine read_fields ?_ ?_ dates dates someMonth lastMonth someDay lastDay (by omega) (by omega)
      (by omega) (by omega)
    · rw [days, if_pos (by omega)]
      simp only
      omega
    · rw [if_pos (by omega)]
      simp only
      omega
  · rw [if_neg leap, if_neg leap]
    refine read_fields ?_ ?_ dates dates someMonth lastMonth someDay lastDay (by omega) (by omega)
      (by omega) (by omega)
    · rw [days, if_neg (by omega)]
      simp only
      omega
    · rw [if_neg (by omega)]

theorem digits_value_lt {digits : List Char} (all : ∀ c ∈ digits, c.isDigit = true) :
    digitsValue digits < 10 ^ digits.length := by
  induction digits with
  | nil => decide
  | cons digit digits ih =>
      have rest := ih fun c member => all c (.tail _ member)
      have own := all digit List.mem_cons_self
      simp only [Char.isDigit, Bool.and_eq_true, decide_eq_true_eq] at own
      have small : digit.toNat ≤ 57 := own.2
      have value : digitsValue (digit :: digits) =
          10 ^ digits.length * (digit.toNat - 48) + digitsValue digits := by
        have parts := Json.natOfDigits_append [digit] digits
        simp only [Json.natOfDigits, List.foldl_cons, List.foldl_nil, Nat.mul_zero, Nat.zero_add]
          at parts
        exact parts
      have bound : 10 ^ digits.length * (digit.toNat - 48) ≤ 10 ^ digits.length * 9 :=
        Nat.mul_le_mul_left _ (by omega)
      rw [value, List.length_cons, Nat.pow_succ]
      omega

theorem read_fraction_small {text rest : List Char} {nanos : Nat}
    (read : readFraction text = some (nanos, rest)) : nanos < 1000000000 := by
  rw [readFraction.eq_def] at read
  split at read
  · rename_i text
    simp only [Option.ite_none_left_eq_some, Option.some.injEq, Prod.mk.injEq] at read
    obtain ⟨-, rfl, -⟩ := read
    generalize usedEq : ((text.takeWhile Char.isDigit).take 9) = used
    have short : used.length ≤ 9 := usedEq ▸ List.length_take_le _ _
    have small : digitsValue used < 10 ^ used.length := digits_value_lt fun c member =>
      List.all_eq_true.1 List.all_takeWhile c (List.mem_of_mem_take (usedEq ▸ member))
    calc digitsValue used * Nat.pow 10 (9 - used.length)
        < 10 ^ used.length * 10 ^ (9 - used.length) :=
          Nat.mul_lt_mul_of_pos_right small (Nat.pow_pos (by omega))
      _ = 1000000000 := by
          rw [← Nat.pow_add, Nat.add_sub_cancel' short]
  · obtain ⟨rfl, -⟩ := Prod.mk.inj (Option.some.inj read)
    omega

/-- Offsets are of whole minutes. -/
theorem read_offset_minutes {text rest : List Char} {offset : Int}
    (found : readOffset text = some (offset, rest)) : offset % 60 = 0 := by
  rw [readOffset.eq_def] at found
  split at found
  · split at found
    · obtain ⟨rfl, -⟩ := Prod.mk.inj (Option.some.inj found)
      rfl
    · simp only [Option.ite_none_right_eq_some] at found
      obtain ⟨-, found⟩ := found
      split at found
      · simp only [Option.ite_none_right_eq_some] at found
        obtain ⟨-, found⟩ := found
        generalize sign : (_ == '+' : Bool) = positive at found
        split at found
        · simp only [Option.ite_none_right_eq_some, Option.some.injEq, Prod.mk.injEq] at found
          obtain ⟨-, rfl, -⟩ := found
          split <;> omega
        · exact nomatch found
      · exact nomatch found
  · exact nomatch found

theorem read_zone_minutes {text rest : List Char} {offset : Int}
    (found : readZone text = some (offset, rest)) : offset % 60 = 0 := by
  rw [readZone] at found
  split at found
  · obtain ⟨rfl, -⟩ := Prod.mk.inj (Option.some.inj found)
    rfl
  · exact read_offset_minutes found

/-- What is read keeps its nanoseconds within the second and has a date, also where it is given with
an offset. -/
theorem exact_of_read {text : String} {time : Timestamp} (found : read text = some time) :
    time.Exact ∧ hasDates time.year = true := by
  obtain ⟨year, -, found⟩ := Option.bind_eq_some_iff.1 found
  obtain ⟨_, -, found⟩ := Option.bind_eq_some_iff.1 found
  obtain ⟨month, -, found⟩ := Option.bind_eq_some_iff.1 found
  obtain ⟨_, -, found⟩ := Option.bind_eq_some_iff.1 found
  obtain ⟨day, -, found⟩ := Option.bind_eq_some_iff.1 found
  obtain ⟨_, -, found⟩ := Option.bind_eq_some_iff.1 found
  obtain ⟨hour, -, found⟩ := Option.bind_eq_some_iff.1 found
  obtain ⟨_, -, found⟩ := Option.bind_eq_some_iff.1 found
  obtain ⟨minute, -, found⟩ := Option.bind_eq_some_iff.1 found
  obtain ⟨_, -, found⟩ := Option.bind_eq_some_iff.1 found
  obtain ⟨second, -, found⟩ := Option.bind_eq_some_iff.1 found
  obtain ⟨nanos, fraction, found⟩ := Option.bind_eq_some_iff.1 found
  obtain ⟨offset, zone, found⟩ := Option.bind_eq_some_iff.1 found
  have small := read_fraction_small fraction
  have minutes := read_zone_minutes zone
  simp only [Option.ite_none_left_eq_some, Option.ite_none_right_eq_some, Option.some.injEq]
    at found
  obtain ⟨-, -, -, -, dates, rfl⟩ := found
  refine ⟨?_, dates⟩
  rw [Exact]
  by_cases leap : second.1 = 60
  · simp only [if_pos leap]
    omega
  · simp only [if_neg leap]
    omega

example : read "2025-01-01T00:00:00 utc" = some ⟨1735689600, 0⟩ := by decide +kernel

/-- A minute before the end of the last year, but in the next year without the offset. -/
example : read "+262142-12-31T23:59:00-00:01" = none := by decide +kernel

end Resemblance.Timestamp
