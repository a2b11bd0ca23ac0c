import Resemblance.Decimal

/-!
Reading numbers from plain text: doubles with an optional sign, point and exponent or one of the
words for infinity and not-a-number, and natural numbers below a bound.
-/

namespace Resemblance

def countBound : Nat := Nat.pow 2 64

def iterationBound : Nat := Nat.pow 2 32

namespace Decimal

def ofDigits (digits : List Char) : Nat :=
  digits.foldl (fun value digit => 10 * value + (digit.toNat - 48)) 0

def readExponentEnd : List Char → Option Int
  | [] => some 0
  | c :: rest =>
      if c == 'e' || c == 'E' then
        let (negative, digits) :=
          match rest with
          | '+' :: rest => (false, rest)
          | '-' :: rest => (true, rest)
          | _ => (false, rest)
        if digits.isEmpty || !digits.all Char.isDigit then none
        else
          let value : Int := ofDigits digits
          some (if negative then -value else value)
      else none

/-- Reads a decimal without a sign: digits on at least one side of an optional point, and an
optional exponent. -/
def readMagnitude? (cs : List Char) : Option Decimal :=
  let whole := cs.takeWhile Char.isDigit
  let rest := cs.drop whole.length
  let (places, rest) :=
    match rest with
    | '.' :: rest =>
        let places := rest.takeWhile Char.isDigit
        (places, rest.drop places.length)
    | _ => ([], rest)
  if whole.isEmpty && places.isEmpty then none
  else
    (readExponentEnd rest).map fun exponent =>
      ⟨ofDigits (whole ++ places), exponent - places.length⟩

/-- The double that a decimal and a sign stand for; what is too great is infinite. -/
def toFloat (negative : Bool) (decimal : Decimal) : Float :=
  match decimal.toFloat? negative with
  | some x => x
  | none => if negative then -(1.0 / 0.0) else 1.0 / 0.0

def readFloat? (text : String) : Option Float :=
  let (negative, cs) :=
    match text.toList with
    | '+' :: rest => (false, rest)
    | '-' :: rest => (true, rest)
    | cs => (false, cs)
  let word := String.ofList (cs.map Char.toLower)
  if word == "inf" || word == "infinity" then some (if negative then -(1.0 / 0.0) else 1.0 / 0.0)
  else if word == "nan" then some (0.0 / 0.0)
  else (readMagnitude? cs).map (toFloat negative)

def readNat? (bound : Nat) (text : String) : Option Nat :=
  let digits :=
    match text.toList with
    | '+' :: rest => rest
    | cs => cs
  if digits.isEmpty || !digits.all Char.isDigit then none
  else (some (ofDigits digits)).filter (· < bound)

end Decimal
end Resemblance
