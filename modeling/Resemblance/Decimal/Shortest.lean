import Resemblance.Decimal

/-!
The shortest decimal of a double: of all decimals that read back as the double, those with the
fewest digits, and of these the nearest.
-/

namespace Resemblance.Decimal

/-- Which of two decimals to take when the double lies exactly between them. -/
inductive Tie where
  | up
  | toEven
  deriving DecidableEq, Repr

/-- A double times four over a common power of two, with the ends of the interval of numbers that
read back as it; the ends themselves do so when the mantissa is even. -/
structure Interval where
  low : Nat
  value : Nat
  high : Nat
  closed : Bool
  deriving DecidableEq, Repr

/-- The interval around a double, in units of a quarter of its last place. -/
def Interval.ofBinary (binary : Binary) : Interval :=
  { low := 4 * binary.mantissa - (if binary.narrowBelow then 1 else 2)
    value := 4 * binary.mantissa
    high := 4 * binary.mantissa + 2
    closed := binary.mantissa % 2 == 0 }

/-- Whether `point` lies in the interval after both are put over common denominators. -/
def Interval.admits (interval : Interval) (scale point : Nat) : Bool :=
  if interval.closed then interval.low * scale ≤ point && point ≤ interval.high * scale
  else interval.low * scale < point && point < interval.high * scale

/-- The decimal with the given exponent that is nearest to the double, if one reads back as it. -/
def onGrid (tie : Tie) (binary : Binary) (exponent : Int) : Option Decimal :=
  let interval := Interval.ofBinary binary
  let twos := binary.exponent - 2
  let scale := Nat.pow 2 twos.toNat * Nat.pow 10 (-exponent).toNat
  let step := Nat.pow 10 exponent.toNat * Nat.pow 2 (-twos).toNat
  let below := interval.value * scale / step
  let lower := interval.admits scale (below * step)
  let upper := interval.admits scale ((below + 1) * step)
  let twice := 2 * (interval.value * scale - below * step)
  let takeUpper :=
    upper && (!lower || step < twice ||
      (twice == step && (tie == .up || below % 2 == 1)))
  if takeUpper then some ⟨below + 1, exponent⟩
  else if lower then some ⟨below, exponent⟩
  else none

def searchDown (tie : Tie) (binary : Binary) : Nat → Int → Option Decimal
  | 0, _ => none
  | fuel + 1, exponent =>
      match onGrid tie binary exponent with
      | some decimal => some decimal
      | none => searchDown tie binary fuel (exponent - 1)

/-- An exponent of ten that is not below the double's first digit. -/
def startExponent (binary : Binary) : Int :=
  ((Nat.log2 binary.mantissa : Int) + binary.exponent) * 30103 / 100000 + 1

/-- The shortest decimal of the magnitude of a finite double. Seventeen digits always suffice, and
the first digit is at most two places below the start. -/
def shortest (tie : Tie) (binary : Binary) : Decimal :=
  if binary.mantissa = 0 then ⟨0, 0⟩
  else (searchDown tie binary 24 (startExponent binary)).getD ⟨binary.mantissa, 0⟩

end Resemblance.Decimal
