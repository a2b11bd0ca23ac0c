import Mathlib.Algebra.Order.Field.Power
import Mathlib.Tactic.FieldSimp
import Mathlib.Tactic.Linarith
import Mathlib.Tactic.Ring
import Resemblance.Json.Read
import Resemblance.Proofs.Rounding

/-!
Numbers in JSON texts. In each of its written forms a number reads back as a number of the same sign
and the same value, in front of anything that does not go on with it.
-/

namespace Resemblance

section Digits

variable {digits rest : List Char}

/-- What stands behind a run of digits does not go on with it. -/
def EndsDigits (rest : List Char) : Prop :=
  ∀ c ∈ rest.head?, c.isDigit = false

theorem takeWhile_digits (all : ∀ c ∈ digits, c.isDigit = true) (ends : EndsDigits rest) :
    (digits ++ rest).takeWhile Char.isDigit = digits := by
  have nothing : rest.takeWhile Char.isDigit = [] := by
    cases rest with
    | nil => rfl
    | cons c rest => exact List.takeWhile_cons_of_neg (by simp [ends c rfl])
  rw [List.takeWhile_append_of_pos all, nothing, List.append_nil]

theorem isDigit_of_mem_digitChars {n : Nat} {c : Char} (member : c ∈ Decimal.digitChars n) :
    c.isDigit = true :=
  Nat.isDigit_of_mem_toDigits (by omega) (by omega) member

theorem digitChars_ne_nil (n : Nat) : Decimal.digitChars n ≠ [] :=
  Nat.toDigits_ne_nil

/-- Only zero is written with a zero in front. -/
theorem head_digitChars {n : Nat} (positive : 0 < n) : (Decimal.digitChars n).head? ≠ some '0' := by
  induction n using Nat.strongRecOn with
  | ind n ih =>
      rw [Decimal.digitChars, Nat.toDigits_eq_if (by omega)]
      split
      · rename_i small
        have single : ∀ n < 10, 0 < n → [n.digitChar].head? ≠ some '0' := by decide
        exact single n small positive
      · have shorter := ih (n / 10) (by omega) (by omega)
        rw [Decimal.digitChars] at shorter
        rwa [List.head?_append_of_ne_nil _ Nat.toDigits_ne_nil]

namespace Json

theorem natOfDigits_digitChars (n : Nat) : natOfDigits (Decimal.digitChars n) = n :=
  Nat.ofDigitChars_ten_toDigits

theorem natOfDigits_append (digits more : List Char) :
    natOfDigits (digits ++ more) = 10 ^ more.length * natOfDigits digits + natOfDigits more := by
  show Nat.ofDigitChars 10 (digits ++ more) 0 = _
  rw [Nat.ofDigitChars_append, Nat.ofDigitChars_eq_ofDigitChars_zero]
  rfl

theorem natOfDigits_zeros (count : Nat) : natOfDigits (List.replicate count '0') = 0 :=
  (Nat.ofDigitChars_replicate_zero (b := 10)).trans (Nat.mul_zero _)

end Json
end Digits

namespace Json

section Parts

variable {digits rest : List Char}

/-- The digits before a point: only a single zero starts with one. -/
structure WholePart (digits : List Char) : Prop where
  filled : digits ≠ []
  digit : ∀ c ∈ digits, c.isDigit = true
  head : digits = ['0'] ∨ digits.head? ≠ some '0'

theorem zero_whole : WholePart ['0'] :=
  ⟨by simp, by simp, .inl rfl⟩

theorem digits_whole {n : Nat} (positive : 0 < n) : WholePart (Decimal.digitChars n) :=
  ⟨digitChars_ne_nil n, fun _ => isDigit_of_mem_digitChars, .inr (head_digitChars positive)⟩

theorem digitChars_whole (n : Nat) : WholePart (Decimal.digitChars n) := by
  rcases Nat.eq_zero_or_pos n with rfl | positive
  · exact zero_whole
  · exact digits_whole positive

theorem WholePart.append {more : List Char} (part : WholePart digits)
    (head : digits.head? ≠ some '0') (all : ∀ c ∈ more, c.isDigit = true) :
    WholePart (digits ++ more) := by
  refine ⟨by simp [part.filled], fun c member => ?_, .inr ?_⟩
  · exact (List.mem_append.1 member).elim (part.digit c) (all c)
  · rwa [List.head?_append_of_ne_nil _ part.filled]

theorem WholePart.read (part : WholePart digits) (ends : EndsDigits rest) :
    readWhole (digits ++ rest) = some (digits, rest) := by
  rw [readWhole, takeWhile_digits part.digit ends]
  have left : (digits ++ rest).drop digits.length = rest := List.drop_left
  have filled := part.filled
  have head := part.head
  rw [left]
  split
  · contradiction
  · simp at head
  · rfl

theorem read_places (filled : digits ≠ []) (all : ∀ c ∈ digits, c.isDigit = true)
    (ends : EndsDigits rest) : readPlaces ('.' :: (digits ++ rest)) = some (some digits, rest) := by
  simp only [readPlaces]
  rw [takeWhile_digits all ends, List.isEmpty_eq_false_iff.2 filled, List.drop_left]
  rfl

theorem read_no_places (ends : ∀ c ∈ rest.head?, c ≠ '.') :
    readPlaces rest = some (none, rest) := by
  rw [readPlaces]
  intro rest' equal
  subst equal
  exact ends '.' rfl rfl

theorem read_no_exponent (ends : ∀ c ∈ rest.head?, c ≠ 'e' ∧ c ≠ 'E') :
    readExponent rest = some (none, rest) := by
  cases rest with
  | nil => rfl
  | cons c rest =>
      obtain ⟨lower, upper⟩ := ends c rfl
      simp [readExponent, lower, upper]

def exponentText (exponent : Int) : List Char :=
  'e' :: ((if exponent < 0 then ['-'] else ['+']) ++ Decimal.digitChars exponent.natAbs)

theorem read_exponent (exponent : Int) (ends : EndsDigits rest) :
    readExponent (exponentText exponent ++ rest) = some (some exponent, rest) := by
  have digits := takeWhile_digits (fun _ => @isDigit_of_mem_digitChars exponent.natAbs _) ends
  have filled := List.isEmpty_eq_false_iff.2 (digitChars_ne_nil exponent.natAbs)
  rw [exponentText]
  split
  · simp only [readExponent, List.cons_append, List.nil_append]
    simp only [digits, filled, List.drop_left, natOfDigits_digitChars, Int.natCast_natAbs]
    simp [abs_of_neg, *]
  · simp only [readExponent, List.cons_append, List.nil_append]
    simp only [digits, filled, List.drop_left, natOfDigits_digitChars, Int.natCast_natAbs]
    simp [abs_of_nonneg, not_lt.1, *]

theorem read_magnitude {negative : Bool} {middle last : List Char} {places : Option (List Char)}
    {exponent : Option Int} (part : WholePart digits) (ends : EndsDigits middle)
    (first : readPlaces middle = some (places, last))
    (second : readExponent last = some (exponent, rest)) :
    readMagnitude negative (digits ++ middle) =
      some
        ({ negative
           decimal := ⟨natOfDigits (digits ++ places.getD []),
             exponent.getD 0 - (places.getD []).length⟩
           whole := places.isNone && exponent.isNone }, rest) := by
  simp [readMagnitude, part.read ends, first, second]

end Parts

end Json

namespace Decimal

open Json

section Layout

variable {decimal : Decimal} {rest : List Char}

def EndsNumber (rest : List Char) : Prop :=
  ∀ c ∈ rest.head?, c.isDigit = false ∧ c ≠ '.' ∧ c ≠ 'e' ∧ c ≠ 'E'

theorem EndsNumber.digits (ends : EndsNumber rest) : EndsDigits rest :=
  fun c here => (ends c here).1

theorem EndsNumber.places (ends : EndsNumber rest) : readPlaces rest = some (none, rest) :=
  read_no_places fun c here => (ends c here).2.1

theorem EndsNumber.exponent (ends : EndsNumber rest) : readExponent rest = some (none, rest) :=
  read_no_exponent fun c here => (ends c here).2.2

/-- A text that reads back, in front of whatever ends a number, as a number with a point or an
exponent and with the value of a decimal. -/
def ReadsAs (text : List Char) (decimal : Decimal) : Prop :=
  ∃ seen : Decimal, seen.value = decimal.value ∧
    ∀ negative rest, EndsNumber rest →
      readMagnitude negative (text ++ rest) = some (⟨negative, seen, false⟩, rest)

theorem reads_pointed {whole : List Char} (places : List Char) (part : WholePart whole)
    (filled : places ≠ [])
    (all : ∀ c ∈ places, c.isDigit = true)
    (same : value ⟨natOfDigits (whole ++ places), -places.length⟩ = decimal.value) :
    ReadsAs (whole ++ '.' :: places) decimal := by
  refine ⟨_, same, fun negative rest ends => ?_⟩
  rw [List.append_assoc, List.cons_append,
    read_magnitude part (by simp [EndsDigits]) (read_places filled all ends.digits)
      ends.exponent]
  simp

/-- Moving a factor of ten from the exponent to the digits. -/
theorem value_shift (digits count : Nat) (exponent : Int) :
    value ⟨10 ^ count * digits, exponent - count⟩ = value ⟨digits, exponent⟩ := by
  simp only [value, Nat.cast_mul, Nat.cast_pow, Nat.cast_ofNat]
  rw [zpow_sub₀ (by norm_num), zpow_natCast]
  field_simp

theorem isDigit_of_mem_zeros {count : Nat} {c : Char} (member : c ∈ List.replicate count '0') :
    c.isDigit = true := by
  rw [List.eq_of_mem_replicate member]
  rfl

section Point

variable {text : List Char} {exponent : Int} (part : WholePart text)

include part

theorem reads_behind_point (small : text.length + exponent ≤ 0) :
    ReadsAs ('0' :: '.' :: (List.replicate (-(text.length + exponent)).toNat '0' ++ text))
      ⟨natOfDigits text, exponent⟩ := by
  refine reads_pointed _ zero_whole (by simp [part.filled]) (fun c member => ?_) ?_
  · exact (List.mem_append.1 member).elim isDigit_of_mem_zeros (part.digit c)
  · rw [natOfDigits_append, natOfDigits_append, natOfDigits_zeros]
    have length : -((List.replicate (-(text.length + exponent)).toNat '0' ++ text).length : Int) =
        exponent := by
      rw [List.length_append, List.length_replicate]
      omega
    rw [length]
    simp [natOfDigits]

variable (head : text.head? ≠ some '0')

include head

theorem reads_before_point (great : (text.length : Int) ≤ text.length + exponent) :
    ReadsAs (text ++ List.replicate
      ((text.length + exponent).toNat - text.length) '0' ++ ['.', '0'])
      ⟨natOfDigits text, exponent⟩ := by
  refine reads_pointed _ (part.append head fun _ => isDigit_of_mem_zeros) (by simp) (by simp) ?_
  rw [natOfDigits_append, natOfDigits_append, natOfDigits_zeros, List.length_replicate,
    ← value_shift (natOfDigits text) ((text.length + exponent).toNat - text.length + 1) exponent]
  have length : -((['0'] : List Char).length : Int) =
      exponent - ((text.length + exponent).toNat - text.length + 1 : Nat) := by
    rw [List.length_singleton]
    omega
  rw [length]
  have grown : 10 ^ (['0'] : List Char).length *
        (10 ^ ((text.length + exponent).toNat - text.length) * natOfDigits text + 0) +
          natOfDigits ['0'] =
      10 ^ ((text.length + exponent).toNat - text.length + 1) * natOfDigits text := by
    rw [Nat.add_comm _ 1, Nat.pow_add, Nat.mul_assoc]
    rfl
  rw [grown]

theorem reads_around_point (some : 0 < text.length + exponent) (negative : exponent < 0) :
    ReadsAs (text.take (text.length + exponent).toNat ++
      '.' :: text.drop (text.length + exponent).toNat)
      ⟨natOfDigits text, exponent⟩ := by
  have cut : text.take (text.length + exponent).toNat ++
      text.drop (text.length + exponent).toNat = text :=
    List.take_append_drop _ _
  have filled := List.length_pos_iff.2 part.filled
  refine reads_pointed _ ⟨?_, fun c member => part.digit c (List.mem_of_mem_take member), .inr ?_⟩
    ?_ (fun c member => part.digit c (List.mem_of_mem_drop member)) ?_
  · exact List.ne_nil_of_length_pos (by rw [List.length_take]; omega)
  · rwa [List.head?_take, if_neg (by omega)]
  · exact List.ne_nil_of_length_pos (by rw [List.length_drop]; omega)
  · have length : -((text.drop (text.length + exponent).toNat).length : Int) = exponent := by
      rw [List.length_drop]
      omega
    rw [cut, length]

end Point

theorem reads_place_point (positive : 0 < decimal.digits) :
    ReadsAs (placePoint (digitChars decimal.digits)
      ((digitChars decimal.digits).length + decimal.exponent) true) decimal := by
  obtain ⟨digits, exponent⟩ := decimal
  have part : WholePart (digitChars digits) := digits_whole positive
  have head := head_digitChars positive
  have number : natOfDigits (digitChars digits) = digits := natOfDigits_digitChars _
  simp only
  generalize digitChars digits = text at *
  subst number
  rw [placePoint]
  split
  · exact reads_behind_point part ‹_›
  · split
    · exact reads_before_point part head (by omega)
    · exact reads_around_point part head (by omega) (by omega)

theorem scientific_eq (digit : Char) (places : List Char) (power : Int) :
    scientific (digit :: places) power true =
      [digit] ++ ((if places = [] then [] else '.' :: places) ++ exponentText power) := by
  cases places with
  | nil => simp [scientific, exponentText]
  | cons place places => simp [scientific, exponentText]

/-- One digit before the point, the others behind it, and a power of ten. -/
theorem reads_scientific (positive : 0 < decimal.digits) :
    ReadsAs (scientific (digitChars decimal.digits)
      ((digitChars decimal.digits).length + decimal.exponent - 1) true) decimal := by
  obtain ⟨digits, exponent⟩ := decimal
  have part : WholePart (digitChars digits) := digits_whole positive
  have head := head_digitChars positive
  have number : natOfDigits (digitChars digits) = digits := natOfDigits_digitChars _
  simp only
  generalize digitChars digits = text at *
  cases text with
  | nil => exact absurd rfl part.filled
  | cons digit places =>
      have single : WholePart [digit] := ⟨by simp, by simp [part.digit digit], .inr head⟩
      have behind : ∀ c ∈ places, c.isDigit = true := fun c member => part.digit c (.tail _ member)
      have power : ((digit :: places).length : Int) + exponent - 1 = places.length + exponent := by
        rw [List.length_cons]
        omega
      refine ⟨⟨digits, exponent⟩, rfl, fun negative rest stop => ?_⟩
      have last := read_exponent (places.length + exponent) stop.digits
      have ends : EndsDigits (exponentText (places.length + exponent) ++ rest) := by
        simp [EndsDigits, exponentText]
      rw [scientific_eq, power, List.append_assoc]
      by_cases none : places = []
      · subst none
        rw [if_pos rfl, List.nil_append,
          read_magnitude single ends (read_no_places (by simp [exponentText])) last]
        simp [number]
      · rw [if_neg none, List.append_assoc, List.cons_append (a := '.'),
          read_magnitude single (by simp [EndsDigits]) (read_places none behind ends) last]
        simp [number]

theorem layout_reads (decimal : Decimal) : ReadsAs (layout JsonNumber.form decimal) decimal := by
  rw [layout]
  split
  · rename_i zero
    refine reads_pointed ['0'] zero_whole (by simp) (by simp) ?_
    simp [value, zero, natOfDigits]
  · rename_i some
    simp only [JsonNumber.form]
    split
    · exact reads_place_point (Nat.pos_of_ne_zero some)
    · exact reads_scientific (Nat.pos_of_ne_zero some)

end Layout

end Decimal

namespace JsonNumber

open Json Decimal

/-- A number as it is read back from its written form. -/
def seen (number : JsonNumber) : JsonNumber :=
  match readNumber number.write with
  | some (seen, _) => seen
  | none => number

theorem read_magnitude_head {negative : Bool} {cs : List Char} {result : JsonNumber × List Char}
    (read : readMagnitude negative cs = some result) : ∃ c ∈ cs.head?, c.isDigit = true := by
  cases cs with
  | nil => simp [readMagnitude, readWhole] at read
  | cons c cs =>
      refine ⟨c, rfl, ?_⟩
      by_contra other
      simp [readMagnitude, readWhole, other] at read

theorem read_number_of_magnitude {cs : List Char} {result : JsonNumber × List Char}
    (read : readMagnitude false cs = some result) : readNumber cs = some result := by
  rw [readNumber]
  · exact read
  · rintro rest rfl
    obtain ⟨c, here, digit⟩ := read_magnitude_head read
    obtain rfl := Option.some.inj here
    exact absurd digit (by decide)

theorem read_number_head {cs : List Char} {result : JsonNumber × List Char}
    (read : readNumber cs = some result) : ∃ c ∈ cs.head?, c = '-' ∨ c.isDigit = true := by
  rw [readNumber.eq_def] at read
  split at read
  · exact ⟨'-', rfl, .inl rfl⟩
  · obtain ⟨c, here, digit⟩ := read_magnitude_head read
    exact ⟨c, here, .inr digit⟩

/-- Whole numbers are written out in digits, without a power of ten. -/
def Plain (number : JsonNumber) : Prop :=
  number.whole = true → number.decimal.exponent = 0

theorem write_whole {number : JsonNumber} (whole : number.whole = true)
    (plain : number.decimal.exponent = 0) :
    number.write = (if number.negative then ['-'] else []) ++ digitChars number.decimal.digits := by
  have some : 0 < digitCount number.decimal.digits := Nat.length_toDigits_pos
  have magnitude : placePoint (digitChars number.decimal.digits)
      ((digitCount number.decimal.digits : Int) + number.decimal.exponent) false =
        digitChars number.decimal.digits := by
    rw [placePoint, plain, if_neg (by omega), if_pos (by rw [digitCount, digitChars]; omega)]
    simp [digitCount, digitChars]
  rw [write, if_pos whole, magnitude]
  split <;> rfl

/-- A number reads back with its sign and its value; a whole number is the very same. -/
structure ReadsBack (number seen : JsonNumber) : Prop where
  read : ∀ rest, EndsNumber rest → readNumber (number.write ++ rest) = some (seen, rest)
  negative : seen.negative = number.negative
  value : seen.decimal.value = number.decimal.value
  whole : number.whole = true → seen = number

theorem reads_back_of_magnitude {number seen : JsonNumber} {text : List Char}
    (written : number.write = (if number.negative then ['-'] else []) ++ text)
    (negative : seen.negative = number.negative) (value : seen.decimal.value = number.decimal.value)
    (whole : number.whole = true → seen = number)
    (read : ∀ rest, EndsNumber rest →
      readMagnitude number.negative (text ++ rest) = some (seen, rest)) :
      ReadsBack number seen := by
  refine ⟨fun rest ends => ?_, negative, value, whole⟩
  have found := read rest ends
  rw [written]
  cases sign : number.negative with
  | true => rwa [sign] at found
  | false =>
      rw [sign] at found
      exact read_number_of_magnitude found

theorem exists_reads_back {number : JsonNumber} (plain : number.Plain) :
    ∃ seen, ReadsBack number seen := by
  cases whole : number.whole with
  | true =>
      refine ⟨number, reads_back_of_magnitude (write_whole whole (plain whole)) rfl rfl
        (fun _ => rfl) fun rest ends => ?_⟩
      rw [read_magnitude (digitChars_whole _) ends.digits ends.places ends.exponent]
      obtain ⟨negative, ⟨digits, exponent⟩, _⟩ := number
      obtain rfl : exponent = 0 := plain whole
      obtain rfl := whole
      simp [natOfDigits_digitChars]
  | false =>
      obtain ⟨seen, value, read⟩ := layout_reads number.decimal
      refine ⟨⟨number.negative, seen, false⟩, reads_back_of_magnitude ?_ rfl value
        (fun isWhole => absurd (whole.symm.trans isWhole) (by simp)) fun rest => read _ rest⟩
      rw [write, whole]
      simp only [Bool.false_eq_true, if_false]
      split <;> rfl

theorem reads_seen (number : JsonNumber) (plain : number.Plain) : ReadsBack number number.seen := by
  obtain ⟨seen, back⟩ := exists_reads_back plain
  have found := back.read [] (by simp [EndsNumber])
  rw [List.append_nil] at found
  rwa [JsonNumber.seen, found]

end JsonNumber
end Resemblance
