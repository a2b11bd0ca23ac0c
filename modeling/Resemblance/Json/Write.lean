import Resemblance.Json

/-!
The written forms of JSON values: on one line without blanks, or with one member per line and two
blanks of indentation for each level.
-/

namespace Resemblance.Json

def hexDigit (n : Nat) : Char :=
  Char.ofNat (if n < 10 then 48 + n else 87 + n)

/-- One character of a text. Quotes, backslashes and control characters are escaped, nothing
else. -/
def writeChar (c : Char) : List Char :=
  if c = '"' then ['\\', '"']
  else if c = '\\' then ['\\', '\\']
  else if c.toNat = 8 then ['\\', 'b']
  else if c.toNat = 12 then ['\\', 'f']
  else if c = '\n' then ['\\', 'n']
  else if c = '\r' then ['\\', 'r']
  else if c = '\t' then ['\\', 't']
  else if c.toNat < 32 then ['\\', 'u', '0', '0', hexDigit (c.toNat / 16), hexDigit (c.toNat % 16)]
  else [c]

def writeText (text : String) : List Char :=
  '"' :: text.toList.flatMap writeChar ++ ['"']

def joinComma : List (List Char) → List Char
  | [] => []
  | [part] => part
  | part :: rest => part ++ ',' :: joinComma rest

mutual

def writeLine : Json → List Char
  | .null => "null".toList
  | .bool true => "true".toList
  | .bool false => "false".toList
  | .number value => value.write
  | .text value => writeText (value.getD "")
  | .array items => '[' :: joinComma (writeItems items) ++ [']']
  | .object members => '\x7b' :: joinComma (writeMembers members) ++ ['\x7d']

def writeItems : List Json → List (List Char)
  | [] => []
  | item :: rest => writeLine item :: writeItems rest

def writeMembers : List (Option String × Json) → List (List Char)
  | [] => []
  | (name, value) :: rest =>
      (writeText (name.getD "") ++ ':' :: writeLine value) :: writeMembers rest

end

def newline (level : Nat) : List Char :=
  '\n' :: List.replicate (2 * level) ' '

/-- Parts on lines of their own, between brackets; no part leaves just the brackets. -/
def block (level : Nat) (opening closing : Char) (parts : List (List Char)) : List Char :=
  match parts with
  | [] => [opening, closing]
  | _ => opening :: joinComma (parts.map (newline (level + 1) ++ ·)) ++ newline level ++ [closing]

mutual

/-- A value with one member per line, where `level` is the level it stands on. -/
def writeLevel (level : Nat) : Json → List Char
  | .null => "null".toList
  | .bool true => "true".toList
  | .bool false => "false".toList
  | .number value => value.write
  | .text value => writeText (value.getD "")
  | .array items => block level '[' ']' (writeLevelItems (level + 1) items)
  | .object members => block level '\x7b' '\x7d' (writeLevelMembers (level + 1) members)

def writeLevelItems (level : Nat) : List Json → List (List Char)
  | [] => []
  | item :: rest => writeLevel level item :: writeLevelItems level rest

def writeLevelMembers (level : Nat) : List (Option String × Json) → List (List Char)
  | [] => []
  | (name, value) :: rest =>
      (writeText (name.getD "") ++ ':' :: ' ' :: writeLevel level value) ::
        writeLevelMembers level rest

end

def compact (json : Json) : String :=
  String.ofList json.writeLine

def pretty (json : Json) : String :=
  String.ofList (json.writeLevel 0)

end Resemblance.Json
