/-!
A place in a YAML text that is being read: the characters still to come, with the line and column of
the first of them.
-/

namespace Resemblance.Yaml

def isBreak (c : Char) : Bool :=
  c == '\n' || c == '\r' || c.toNat == 0x85 || c.toNat == 0x2028 || c.toNat == 0x2029

def isBlank (c : Char) : Bool :=
  c == ' ' || c == '\t'

/-- Characters that may stand in a YAML text at all. -/
def isAllowed (c : Char) : Bool :=
  let n := c.toNat
  n == 0x9 || n == 0xa || n == 0xd || (0x20 ≤ n && n ≤ 0x7e) || n == 0x85 ||
    (0xa0 ≤ n && n ≤ 0xfffd) || 0x10000 ≤ n

/-- The characters to come, and where the first of them stands. All counts start at zero. -/
structure Cursor where
  rest : List Char
  line : Nat
  column : Nat
  index : Nat

namespace Cursor

def start (text : String) : Cursor :=
  ⟨text.toList, 0, 0, 0⟩

def peek (cursor : Cursor) (ahead : Nat) : Option Char :=
  cursor.rest[ahead]?

def sees (cursor : Cursor) (ahead : Nat) (c : Char) : Bool :=
  cursor.peek ahead == some c

def meets (cursor : Cursor) (ahead : Nat) (test : Char → Bool) : Bool :=
  (cursor.peek ahead).any test

def endsWord (cursor : Cursor) (ahead : Nat) : Bool :=
  match cursor.peek ahead with
  | none => true
  | some c => isBlank c || isBreak c

def endsLine (cursor : Cursor) (ahead : Nat) : Bool :=
  match cursor.peek ahead with
  | none => true
  | some c => isBreak c

def skip (cursor : Cursor) (count : Nat) : Cursor :=
  { cursor with
    rest := cursor.rest.drop count
    column := cursor.column + count
    index := cursor.index + count }

def skipWhile (cursor : Cursor) (test : Char → Bool) : Cursor :=
  cursor.skip (cursor.rest.takeWhile test).length

def skipLine (cursor : Cursor) : Cursor :=
  cursor.skipWhile fun c => !isBreak c

/-- Past a line break, and the character it is read as. -/
def readBreak (cursor : Cursor) : List Char × Cursor :=
  let next := fun (count : Nat) (rest : List Char) =>
    { cursor with rest, line := cursor.line + 1, column := 0, index := cursor.index + count }
  match cursor.rest with
  | '\r' :: '\n' :: rest => (['\n'], next 2 rest)
  | c :: rest => ([if c.toNat == 0x2028 || c.toNat == 0x2029 then c else '\n'], next 1 rest)
  | [] => ([], cursor)

def seesMark (cursor : Cursor) (c : Char) : Bool :=
  cursor.column == 0 && cursor.sees 0 c && cursor.sees 1 c && cursor.sees 2 c && cursor.endsWord 3

def seesDocumentMark (cursor : Cursor) : Bool :=
  cursor.seesMark '-' || cursor.seesMark '.'

end Cursor

/-- White space between two parts of a scalar: the blanks, or the first break and the breaks after
it when the scalar goes on in another line. -/
structure Gap where
  spaces : List Char := []
  leading : List Char := []
  trailing : List Char := []
  crossed : Bool := false

namespace Gap

/-- What a gap contributes to the scalar: its blanks, or a space for a single break, or the breaks
after the first one. -/
def fold (gap : Gap) : List Char :=
  if !gap.crossed then gap.spaces
  else if gap.leading == ['\n'] then (if gap.trailing.isEmpty then [' '] else gap.trailing)
  else gap.leading ++ gap.trailing

/-- Reads a gap. A tab in front of the column `indent` of a later line is refused. -/
def read (indent : Int) : Nat → Gap → Cursor → Option (Gap × Cursor)
  | 0, gap, cursor => some (gap, cursor)
  | fuel + 1, gap, cursor =>
      match cursor.peek 0 with
      | none => some (gap, cursor)
      | some c =>
          if isBlank c then
            if gap.crossed then
              if c == '\t' && (cursor.column : Int) < indent then none
              else read indent fuel gap (cursor.skip 1)
            else read indent fuel { gap with spaces := gap.spaces ++ [c] } (cursor.skip 1)
          else if isBreak c then
            let (read_, next) := cursor.readBreak
            if gap.crossed then
              read indent fuel { gap with trailing := gap.trailing ++ read_ } next
            else read indent fuel { gap with spaces := [], leading := read_, crossed := true } next
          else some (gap, cursor)

end Gap
end Resemblance.Yaml
