import Resemblance.Decimal.Layout

/-!
JSON values, with the members of an object in their order. Numbers keep the sign and the decimal
they were written with, so that a reader may still ask for a whole number or for a double.
-/

namespace Resemblance

/-- A JSON number as written: its sign, its decimal, and whether it has neither point nor
exponent. -/
structure JsonNumber where
  negative : Bool
  decimal : Decimal
  whole : Bool
  deriving DecidableEq, Repr

/-- A JSON value. A text is `none` if its escapes are no text: such a value may be skipped, not
used. -/
inductive Json where
  | null
  | bool (value : Bool)
  | number (value : JsonNumber)
  | text (value : Option String)
  | array (items : List Json)
  | object (members : List (Option String × Json))

namespace JsonNumber

/-- Doubles in JSON: without an exponent from the fifth decimal place up to sixteen digits. -/
def form : Decimal.Form :=
  { tie := .toEven, positional := some (-5, 15), point := true, plus := true
    nan := "null", infinity := "null", negativeInfinity := "null" }

def ofNat (n : Nat) : JsonNumber :=
  ⟨false, ⟨n, 0⟩, true⟩

/-- The shortest number that reads back as a finite double. -/
def ofFloat (x : Float) : JsonNumber :=
  ⟨isNegative x, Decimal.shortest form.tie (Binary.ofFloat x), false⟩

def write (number : JsonNumber) : List Char :=
  let magnitude :=
    if number.whole then Decimal.placePoint (Decimal.digitChars number.decimal.digits)
      ((Decimal.digitCount number.decimal.digits : Int) + number.decimal.exponent) false
    else Decimal.layout form number.decimal
  if number.negative then '-' :: magnitude else magnitude

def toNat? (number : JsonNumber) : Option Nat :=
  if number.whole && !number.negative then
    some (number.decimal.digits * Nat.pow 10 number.decimal.exponent.toNat)
  else none

def toFloat? (number : JsonNumber) : Option Float :=
  number.decimal.toFloat? number.negative

end JsonNumber

namespace Json

def ofText (text : String) : Json :=
  .text (some text)

def ofNat (n : Nat) : Json :=
  .number (.ofNat n)

/-- A double; one that is not finite becomes null. -/
def ofFloat (x : Float) : Json :=
  if x.isFinite then .number (.ofFloat x) else .null

def ofOption {α : Type} (write : α → Json) : Option α → Json
  | none => .null
  | some value => write value

def ofMembers (members : List (String × Json)) : Json :=
  .object (members.map fun member => (some member.1, member.2))

def toText? : Json → Option String
  | .text value => value
  | _ => none

def toNat? (bound : Nat) : Json → Option Nat
  | .number value => value.toNat?.filter (· < bound)
  | _ => none

def toFloat? : Json → Option Float
  | .number value => value.toFloat?
  | _ => none

def toOption? {α : Type} (read : Json → Option α) : Json → Option (Option α)
  | .null => some none
  | json => (read json).map some

end Json
end Resemblance
