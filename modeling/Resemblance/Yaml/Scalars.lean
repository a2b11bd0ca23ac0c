import Resemblance.Decimal.Layout
import Resemblance.Decimal.Read
import Resemblance.Yaml

/-!
What scalars stand for: natural numbers and doubles for plain scalars, and the spellings that a text
must not have if it is to be written plainly.
-/

namespace Resemblance.Yaml

/-- Digits with a zero in front, which are a text. -/
def isPaddedDigits (cs : List Char) : Bool :=
  let digits :=
    match cs with
    | '-' :: rest => rest
    | '+' :: rest => rest
    | _ => cs
  match digits with
  | '0' :: rest => !rest.isEmpty && rest.all Char.isDigit
  | _ => false

def digitIn? (base : Nat) (c : Char) : Option Nat :=
  let value :=
    if c.isDigit then some (c.toNat - 48)
    else if 'a' ≤ c ∧ c ≤ 'f' then some (c.toNat - 87)
    else if 'A' ≤ c ∧ c ≤ 'F' then some (c.toNat - 55)
    else none
  value.filter (· < base)

def natIn? (base : Nat) (digits : List Char) : Option Nat :=
  if digits.isEmpty then none
  else digits.foldlM (fun value digit => (digitIn? base digit).map (base * value + ·)) 0

def readNatural? (cs : List Char) : Option Nat :=
  let unsigned :=
    match cs with
    | '+' :: rest => rest
    | _ => cs
  match unsigned with
  | '0' :: 'x' :: rest => natIn? 16 rest
  | '0' :: 'o' :: rest => natIn? 8 rest
  | '0' :: 'b' :: rest => natIn? 2 rest
  | _ => if isPaddedDigits cs then none else natIn? 10 unsigned

/-- Whether the characters spell a whole number of at most 128 bits, negative ones included. -/
def isWhole (cs : List Char) : Bool :=
  match cs with
  | '-' :: rest =>
      let magnitude :=
        match rest with
        | '+' :: _ => none
        | _ => readNatural? rest
      !isPaddedDigits cs && magnitude.any (· ≤ Nat.pow 2 127)
  | _ => (readNatural? cs).any (· < Nat.pow 2 128)

def readDouble? (cs : List Char) : Option Float :=
  let text := String.ofList cs
  let unsigned :=
    match cs with
    | '+' :: '+' :: _ => none
    | '+' :: '-' :: _ => none
    | '+' :: rest => some (String.ofList rest)
    | _ => some text
  if unsigned.any [".inf", ".Inf", ".INF"].contains then some (1.0 / 0.0)
  else if ["-.inf", "-.Inf", "-.INF"].contains text then some (-(1.0 / 0.0))
  else if [".nan", ".NaN", ".NAN"].contains text then some (0.0 / 0.0)
  else (unsigned.bind Decimal.readFloat?).filter Float.isFinite

def isNull (text : String) : Bool :=
  ["", "~", "null", "Null", "NULL"].contains text

def isTruth (text : String) : Bool :=
  ["true", "True", "TRUE", "false", "False", "FALSE"].contains text

/-- Whether a plain scalar could be taken for something else than a text. -/
def isAmbiguous (text : String) : Bool :=
  let cs := text.toList
  isNull text || isTruth text || isWhole cs || isPaddedDigits cs || (readDouble? cs).isSome

def toNat? (bound : Nat) : Yaml → Option Nat
  | .scalar true text => (readNatural? text.toList).filter (· < bound)
  | _ => none

def toFloat? : Yaml → Option Float
  | .scalar true text => readDouble? text.toList
  | _ => none

def toText? : Yaml → Option String
  | .scalar _ text => some text
  | _ => none

def toOption? {α : Type} (read : Yaml → Option α) : Yaml → Option (Option α)
  | .scalar true text => if isNull text then some none else (read (.scalar true text)).map some
  | value => (read value).map some

/-- A list; an empty plain scalar is an empty one. -/
def toList? {α : Type} (read : Yaml → Option α) : Yaml → Option (List α)
  | .sequence items => items.mapM read
  | .scalar true "" => some []
  | _ => none

/-- The members of a mapping with texts as keys; an empty plain scalar is an empty mapping. -/
def toMembers? : Yaml → Option (List (String × Yaml))
  | .mapping members => members.mapM fun member => (toText? member.1).map fun key => (key, member.2)
  | .scalar true "" => some []
  | _ => none

/-- The member with a key, which must not occur twice; a missing one has the given value. -/
def member? {α : Type} (members : List (String × Yaml)) (key : String) (absent : α)
    (read : Yaml → Option α) : Option α :=
  match members.filter fun member => member.1 == key with
  | [] => some absent
  | [(_, value)] => read value
  | _ => none

/-- Doubles in YAML: without an exponent from the fifth decimal place up to sixteen digits. -/
def floatForm : Decimal.Form :=
  { tie := .toEven, positional := some (-5, 15), point := true, plus := false
    nan := ".nan", infinity := ".inf", negativeInfinity := "-.inf" }

def ofNat (n : Nat) : Yaml :=
  .scalar true (toString n)

def ofFloat (x : Float) : Yaml :=
  .scalar true (Decimal.write floatForm x)

def ofText (text : String) : Yaml :=
  .scalar false text

def ofMembers (members : List (String × Yaml)) : Yaml :=
  .mapping (members.map fun member => (.scalar true member.1, member.2))

end Resemblance.Yaml
