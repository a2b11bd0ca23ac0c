/-!
Decimal and binary notation of doubles, in exact arithmetic on natural numbers. A finite double is a
natural number times a power of two; a decimal is a natural number times a power of ten.
-/

namespace Resemblance

/-- The magnitude of a finite double: `mantissa · 2 ^ exponent`. -/
structure Binary where
  mantissa : Nat
  exponent : Int
  /-- The next smaller double is only half as far away as the next greater one. -/
  narrowBelow : Bool
  deriving DecidableEq, Repr

/-- The number `digits · 10 ^ exponent`. -/
structure Decimal where
  digits : Nat
  exponent : Int
  deriving DecidableEq, Repr

namespace Binary

def ofBits (bits : UInt64) : Binary :=
  let fraction : Nat := bits.toNat % Nat.pow 2 52
  let level : Nat := bits.toNat / Nat.pow 2 52 % Nat.pow 2 11
  if level = 0 then ⟨fraction, -1074, false⟩
  else ⟨fraction + Nat.pow 2 52, (level : Int) - 1075, fraction == 0 && level > 1⟩

def ofFloat (x : Float) : Binary :=
  ofBits x.toBits

end Binary

def isNegative (x : Float) : Bool :=
  x.toBits.toNat / Nat.pow 2 63 == 1

namespace Decimal

/-- A quotient rounded to the nearest natural number; a half goes to the even neighbour. -/
def roundHalfEven (num den : Nat) : Nat :=
  let quotient := num / den
  let twice := 2 * (num % den)
  if twice < den then quotient
  else if twice = den then quotient + quotient % 2
  else quotient + 1

/-- The bits of the double nearest to the positive fraction `num / den`; `none` if it is too
great. -/
def nearestBits (num den : Nat) : Option Nat :=
  let guess : Int := (Nat.log2 num : Int) - (Nat.log2 den : Int) - 52
  let fits := fun (q : Int) =>
    Nat.pow 2 52 * den * Nat.pow 2 q.toNat ≤ num * Nat.pow 2 (-q).toNat
  let q : Int := max (-1074) (if fits guess then guess else guess - 1)
  let mantissa := roundHalfEven (num * Nat.pow 2 (-q).toNat) (den * Nat.pow 2 q.toNat)
  let bits := (q + 1074).toNat * Nat.pow 2 52 + mantissa
  if bits < 2047 * Nat.pow 2 52 then some bits else none

def digitCount (n : Nat) : Nat :=
  (Nat.toDigits 10 n).length

/-- The bits of the double nearest to a decimal; `none` if it is too great. Exponents so great or
so small that no double is near are settled without computing the power. -/
def toBits? (decimal : Decimal) : Option Nat :=
  let size : Int := (digitCount decimal.digits : Int) + decimal.exponent
  if decimal.digits = 0 || size < -400 then some 0
  else if size > 400 then none
  else
    nearestBits (decimal.digits * Nat.pow 10 decimal.exponent.toNat)
      (Nat.pow 10 (-decimal.exponent).toNat)

def toFloat? (negative : Bool) (decimal : Decimal) : Option Float :=
  decimal.toBits?.map fun bits =>
    Float.ofBits (UInt64.ofNat (if negative then bits + Nat.pow 2 63 else bits))

end Decimal
end Resemblance
