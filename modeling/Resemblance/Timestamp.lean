import Resemblance.Text.Blank

/-!
Points in time, and their written form: date and time of day with an offset from Coordinated
Universal Time. A time is read with any offset and written without one.
-/

namespace Resemblance

/-- A point in time: seconds since the beginning of 1970, and nanoseconds within the second. A
second that was inserted before midnight is the second before it with a billion nanoseconds more. -/
structure Timestamp where
  seconds : Int
  nanos : Nat
  deriving DecidableEq, Repr

namespace Timestamp

def isLeapYear (year : Int) : Bool :=
  year % 4 == 0 && (year % 100 != 0 || year % 400 == 0)

def monthLength (year : Int) (month : Nat) : Nat :=
  if month = 2 then (if isLeapYear year then 29 else 28)
  else if month = 4 ∨ month = 6 ∨ month = 9 ∨ month = 11 then 30
  else 31

/-- Days from the beginning of 1970 to a date, counted over eras of four hundred years that begin in
March. -/
def daysOfDate (year : Int) (month day : Nat) : Int :=
  let shifted := if month ≤ 2 then year - 1 else year
  let era := shifted.fdiv 400
  let yearOfEra := shifted - era * 400
  let monthFromMarch : Int := ((month + 9) % 12 : Nat)
  let dayOfYear := (153 * monthFromMarch + 2) / 5 + (day : Int) - 1
  let dayOfEra := yearOfEra * 365 + yearOfEra / 4 - yearOfEra / 100 + dayOfYear
  era * 146097 + dayOfEra - 719468

def dateOfDays (days : Int) : Int × Nat × Nat :=
  let shifted := days + 719468
  let era := shifted.fdiv 146097
  let dayOfEra := shifted - era * 146097
  let yearOfEra := (dayOfEra - dayOfEra / 1460 + dayOfEra / 36524 - dayOfEra / 146096) / 365
  let dayOfYear := dayOfEra - (365 * yearOfEra + yearOfEra / 4 - yearOfEra / 100)
  let monthFromMarch := (5 * dayOfYear + 2) / 153
  let day := (dayOfYear - (153 * monthFromMarch + 2) / 5 + 1).toNat
  let month := (if monthFromMarch < 10 then monthFromMarch + 3 else monthFromMarch - 9).toNat
  (yearOfEra + era * 400 + (if month ≤ 2 then 1 else 0), month, day)

/-- The year of a timestamp by its own time, without an offset. -/
def year (time : Timestamp) : Int :=
  (dateOfDays (time.seconds.fdiv 86400)).1

def hasDates (year : Int) : Bool :=
  -262143 ≤ year && year ≤ 262142

def zeroPadded (width n : Nat) : List Char :=
  let digits := Nat.toDigits 10 n
  List.replicate (width - digits.length) '0' ++ digits

/-- The fraction of a second with as few groups of three digits as it needs. -/
def writeFraction (nanos : Nat) : List Char :=
  if nanos = 0 then []
  else if nanos % 1000000 = 0 then '.' :: zeroPadded 3 (nanos / 1000000)
  else if nanos % 1000 = 0 then '.' :: zeroPadded 6 (nanos / 1000)
  else '.' :: zeroPadded 9 nanos

def writeYear (year : Int) : List Char :=
  if 0 ≤ year ∧ year ≤ 9999 then zeroPadded 4 year.toNat
  else (if year < 0 then '-' else '+') :: zeroPadded 4 year.natAbs

def write (time : Timestamp) : String :=
  let days := time.seconds.fdiv 86400
  let second := (time.seconds - days * 86400).toNat
  let (year, month, day) := dateOfDays days
  let leap := 1000000000 ≤ time.nanos
  let ofMinute := second % 60 + (if leap then 1 else 0)
  let nanos := if leap then time.nanos - 1000000000 else time.nanos
  String.ofList
    (writeYear year ++ '-' :: zeroPadded 2 month ++ '-' :: zeroPadded 2 day ++
      'T' :: zeroPadded 2 (second / 3600) ++ ':' :: zeroPadded 2 (second / 60 % 60) ++
      ':' :: zeroPadded 2 ofMinute ++ writeFraction nanos ++ ['Z'])

def digitsValue (digits : List Char) : Nat :=
  digits.foldl (fun value digit => 10 * value + (digit.toNat - 48)) 0

def skipSpace (cs : List Char) : List Char :=
  cs.dropWhile Text.isBlank

/-- Reads a number of at least one digit and at most `width`. -/
def readNumber (width : Nat) (cs : List Char) : Option (Nat × List Char) :=
  let digits := (cs.take width).takeWhile Char.isDigit
  if digits.isEmpty then none else some (digitsValue digits, cs.drop digits.length)

def readOne (accepted : List Char) : List Char → Option (List Char)
  | [] => none
  | c :: rest => if accepted.contains c then some rest else none

def readYear (cs : List Char) : Option (Int × List Char) :=
  match cs with
  | '-' :: rest => (readNumber rest.length rest).map fun (year, rest) => (-(year : Int), rest)
  | '+' :: rest => (readNumber rest.length rest).map fun (year, rest) => ((year : Int), rest)
  | _ => (readNumber 4 cs).map fun (year, rest) => ((year : Int), rest)

/-- Reads the fraction of a second in nanoseconds; digits after the ninth are skipped. -/
def readFraction : List Char → Option (Nat × List Char)
  | '.' :: rest =>
      let digits := rest.takeWhile Char.isDigit
      let used := digits.take 9
      if digits.isEmpty then none
      else some (digitsValue used * Nat.pow 10 (9 - used.length), rest.drop digits.length)
  | cs => some (0, cs)

def readOffset (cs : List Char) : Option (Int × List Char) :=
  match cs with
  | c :: rest =>
      if c == 'Z' || c == 'z' then some (0, rest)
      else if c == '+' || c == '-' || c == Char.ofNat 0x2212 then
        match rest with
        | h :: h' :: rest =>
            if h.isDigit && h'.isDigit then
              let hours := digitsValue [h, h']
              let signed := fun (minutes : Nat) =>
                let seconds : Int := (hours * 3600 + minutes * 60 : Nat)
                if c == '+' then seconds else -seconds
              match rest.dropWhile fun d => d == ':' || Text.isBlank d with
              | m :: m' :: rest =>
                  if m.isDigit && m'.isDigit && m.toNat < 54 then
                    some (signed (digitsValue [m, m']), rest)
                  else none
              | _ => none
            else none
        | _ => none
      else none
  | [] => none

/-- Reads an offset, or the name of the time without one, in capitals or not. -/
def readZone (cs : List Char) : Option (Int × List Char) :=
  if (cs.take 3).map Char.toUpper == ['U', 'T', 'C'] then some (0, cs.drop 3) else readOffset cs

/-- Reads a written point in time. Date, time of day and offset are checked for their ranges, the
date also without the offset; a 60th second is admitted. -/
def read (text : String) : Option Timestamp := do
  let (year, cs) ← readYear (skipSpace text.toList)
  let cs ← readOne ['-'] (skipSpace cs)
  let (month, cs) ← readNumber 2 (skipSpace cs)
  let cs ← readOne ['-'] (skipSpace cs)
  let (day, cs) ← readNumber 2 (skipSpace cs)
  let cs ← readOne ['T', 't', ' '] cs
  let (hour, cs) ← readNumber 2 (skipSpace cs)
  let cs ← readOne [':'] (skipSpace cs)
  let (minute, cs) ← readNumber 2 (skipSpace cs)
  let cs ← readOne [':'] (skipSpace cs)
  let (second, cs) ← readNumber 2 (skipSpace cs)
  let (nanos, cs) ← readFraction cs
  let (offset, cs) ← readZone (skipSpace cs)
  if !(skipSpace cs).isEmpty then none
  else if month = 0 ∨ 12 < month ∨ day = 0 ∨ monthLength year month < day then none
  else if 23 < hour ∨ 59 < minute ∨ 60 < second then none
  else if !hasDates year ∨ offset.natAbs ≥ 86400 then none
  else
    let leap := second = 60
    let ofDay : Int := (hour * 3600 + minute * 60 + (if leap then 59 else second) : Nat)
    let time : Timestamp :=
      { seconds := daysOfDate year month day * 86400 + ofDay - offset
        nanos := if leap then nanos + 1000000000 else nanos }
    if hasDates time.year then some time else none

end Timestamp
end Resemblance
