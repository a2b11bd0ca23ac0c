import Resemblance.Json

/-!
Reading JSON: the strict grammar, over the whole text. Each reader takes characters from the front
and returns the rest.
-/

namespace Resemblance.Json

def skipBlanks (cs : List Char) : List Char :=
  cs.dropWhile fun c => c == ' ' || c == '\n' || c == '\t' || c == '\r'

def hexValue? (c : Char) : Option Nat :=
  if c.isDigit then some (c.toNat - 48)
  else if 'a' ≤ c ∧ c ≤ 'f' then some (c.toNat - 87)
  else if 'A' ≤ c ∧ c ≤ 'F' then some (c.toNat - 55)
  else none

def readHex4 : List Char → Option (Nat × List Char)
  | a :: b :: c :: d :: rest => do
      let a ← hexValue? a
      let b ← hexValue? b
      let c ← hexValue? c
      let d ← hexValue? d
      some (((a * 16 + b) * 16 + c) * 16 + d, rest)
  | _ => none

def escape? (c : Char) : Option Char :=
  if c == '"' || c == '\\' || c == '/' then some c
  else if c == 'b' then some (Char.ofNat 8)
  else if c == 'f' then some (Char.ofNat 12)
  else if c == 'n' then some '\n'
  else if c == 'r' then some '\r'
  else if c == 't' then some '\t'
  else none

/-- A unit of a quoted text: a code point, or half of a pair that stands for one. -/
abbrev Units := List Nat

def readUnits : List Char → Option (Units × List Char)
  | [] => none
  | '"' :: rest => some ([], rest)
  | '\\' :: 'u' :: a :: b :: c :: d :: rest =>
      match readHex4 [a, b, c, d], readUnits rest with
      | some (unit, _), some (units, rest) => some (unit :: units, rest)
      | _, _ => none
  | '\\' :: c :: rest =>
      match escape? c, readUnits rest with
      | some c, some (units, rest) => some (c.toNat :: units, rest)
      | _, _ => none
  | c :: rest =>
      if c == '\\' || c.toNat < 32 then none
      else
        match readUnits rest with
        | some (units, rest) => some (c.toNat :: units, rest)
        | none => none

/-- The text of units: halves of a pair must meet. -/
def textOfUnits : Units → Option (List Char)
  | [] => some []
  | unit :: rest =>
      if 0xd800 ≤ unit ∧ unit < 0xdc00 then
        match rest with
        | low :: rest =>
            if 0xdc00 ≤ low ∧ low < 0xe000 then
              (textOfUnits rest).map
                (Char.ofNat (0x10000 + (unit - 0xd800) * 1024 + (low - 0xdc00)) :: ·)
            else none
        | [] => none
      else if 0xdc00 ≤ unit ∧ unit < 0xe000 then none
      else (textOfUnits rest).map (Char.ofNat unit :: ·)

def readText (cs : List Char) : Option (Option String × List Char) :=
  (readUnits cs).map fun (units, rest) => ((textOfUnits units).map String.ofList, rest)

def natOfDigits (digits : List Char) : Nat :=
  digits.foldl (fun value digit => 10 * value + (digit.toNat - 48)) 0

/-- Reads the digits before the point: a zero, or digits that do not start with one. -/
def readWhole (cs : List Char) : Option (List Char × List Char) :=
  let digits := cs.takeWhile Char.isDigit
  match digits with
  | [] => none
  | '0' :: _ :: _ => none
  | _ => some (digits, cs.drop digits.length)

def readPlaces : List Char → Option (Option (List Char) × List Char)
  | '.' :: rest =>
      let digits := rest.takeWhile Char.isDigit
      if digits.isEmpty then none else some (some digits, rest.drop digits.length)
  | cs => some (none, cs)

def readExponent (cs : List Char) : Option (Option Int × List Char) :=
  match cs with
  | c :: rest =>
      if c == 'e' || c == 'E' then
        let (negative, rest) :=
          match rest with
          | '+' :: rest => (false, rest)
          | '-' :: rest => (true, rest)
          | _ => (false, rest)
        let digits := rest.takeWhile Char.isDigit
        if digits.isEmpty then none
        else
          let value : Int := natOfDigits digits
          some (some (if negative then -value else value), rest.drop digits.length)
      else some (none, cs)
  | [] => some (none, cs)

def readMagnitude (negative : Bool) (cs : List Char) : Option (JsonNumber × List Char) := do
  let (whole, cs) ← readWhole cs
  let (places, cs) ← readPlaces cs
  let (exponent, cs) ← readExponent cs
  let digits := whole ++ places.getD []
  some
    ({ negative
       decimal := ⟨natOfDigits digits, exponent.getD 0 - (places.getD []).length⟩
       whole := places.isNone && exponent.isNone }, cs)

def readNumber : List Char → Option (JsonNumber × List Char)
  | '-' :: rest => readMagnitude true rest
  | cs => readMagnitude false cs

def readWord (word : String) (value : Json) (cs : List Char) : Option (Json × List Char) :=
  if word.toList.isPrefixOf cs then some (value, cs.drop word.length) else none

mutual

/-- Reads a value; `fuel` bounds the number of nested and neighbouring parts. -/
def readValue : Nat → List Char → Option (Json × List Char)
  | 0, _ => none
  | fuel + 1, cs =>
      match skipBlanks cs with
      | [] => none
      | '"' :: rest => (readText rest).map fun (content, rest) => (.text content, rest)
      | '[' :: rest =>
          match skipBlanks rest with
          | ']' :: rest => some (.array [], rest)
          | rest => (readItems fuel rest).map fun (items, rest) => (.array items, rest)
      | '\x7b' :: rest =>
          match skipBlanks rest with
          | '\x7d' :: rest => some (.object [], rest)
          | rest => (readMembers fuel rest).map fun (members, rest) => (.object members, rest)
      | 'n' :: rest => readWord "ull" .null rest
      | 't' :: rest => readWord "rue" (.bool true) rest
      | 'f' :: rest => readWord "alse" (.bool false) rest
      | cs => (readNumber cs).map fun (value, rest) => (.number value, rest)

def readItems : Nat → List Char → Option (List Json × List Char)
  | 0, _ => none
  | fuel + 1, cs =>
      match readValue fuel cs with
      | none => none
      | some (item, rest) =>
          match skipBlanks rest with
          | ']' :: rest => some ([item], rest)
          | ',' :: rest => (readItems fuel rest).map fun (items, rest) => (item :: items, rest)
          | _ => none

def readMembers : Nat → List Char → Option (List (Option String × Json) × List Char)
  | 0, _ => none
  | fuel + 1, cs =>
      match skipBlanks cs with
      | '"' :: rest =>
          match readText rest with
          | none => none
          | some (name, rest) =>
              match skipBlanks rest with
              | ':' :: rest =>
                  match readValue fuel rest with
                  | none => none
                  | some (value, rest) =>
                      match skipBlanks rest with
                      | '\x7d' :: rest => some ([(name, value)], rest)
                      | ',' :: rest =>
                          (readMembers fuel rest).map fun (members, rest) =>
                            ((name, value) :: members, rest)
                      | _ => none
              | _ => none
      | _ => none

end

def read (text : String) : Option Json :=
  let cs := text.toList
  match readValue (2 * cs.length + 2) cs with
  | some (json, rest) => if (skipBlanks rest).isEmpty then some json else none
  | none => none

end Resemblance.Json
