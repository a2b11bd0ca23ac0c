/-!
Spans of time in whole milliseconds, and their written form in the greatest fitting unit.
-/

namespace Resemblance

structure Duration where
  millis : Nat
  deriving DecidableEq, Repr

namespace Duration

def ofSeconds (seconds : Nat) : Duration :=
  ⟨1000 * seconds⟩

/-- Digits of a number, with leading zeros up to three, without zeros at the end. -/
def fractionDigits (millis : Nat) : List Char :=
  let digits := Nat.toDigits 10 millis
  let padded := List.replicate (3 - digits.length) '0' ++ digits
  (padded.reverse.dropWhile (· == '0')).reverse

def write (duration : Duration) : String :=
  let seconds := duration.millis / 1000
  let rest := duration.millis % 1000
  if duration.millis = 0 then "0ns"
  else if seconds = 0 then s!"{rest}ms"
  else if rest = 0 then s!"{seconds}s"
  else String.ofList (Nat.toDigits 10 seconds ++ '.' :: fractionDigits rest ++ ['s'])

end Duration
end Resemblance
