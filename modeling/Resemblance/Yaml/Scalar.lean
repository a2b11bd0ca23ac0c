import Resemblance.Yaml.Cursor

/-!
Reading the scalars of a YAML text: plain, quoted in either way, and block scalars.
-/

namespace Resemblance.Yaml.Scalar

def readSingle : Nat → List Char → Cursor → Option (List Char × Cursor)
  | 0, _, _ => none
  | fuel + 1, read, cursor =>
      if cursor.seesDocumentMark then none
      else
        match cursor.peek 0 with
        | none => none
        | some c =>
            if c == Char.ofNat 39 then
              if cursor.sees 1 (Char.ofNat 39) then readSingle fuel (read ++ [c]) (cursor.skip 2)
              else some (read, cursor.skip 1)
            else if isBlank c || isBreak c then
              match Gap.read (-1) (cursor.rest.length + 1) {} cursor with
              | none => none
              | some (gap, next) => readSingle fuel (read ++ gap.fold) next
            else readSingle fuel (read ++ [c]) (cursor.skip 1)

/-- The character that a letter after a backslash stands for. -/
def escapes : List (Char × Nat) :=
  [('0', 0), ('a', 7), ('b', 8), ('t', 9), ('\t', 9), ('n', 10), ('v', 11), ('f', 12), ('r', 13),
   ('e', 27), (' ', 32), ('"', 34), ('/', 47), ('\\', 92), ('N', 0x85), ('_', 0xa0), ('L', 0x2028),
   ('P', 0x2029)]

def codeWidths : List (Char × Nat) :=
  [('x', 2), ('u', 4), ('U', 8)]

def hexDigit? (c : Char) : Option Nat :=
  if c.isDigit then some (c.toNat - 48)
  else if 'a' ≤ c ∧ c ≤ 'f' then some (c.toNat - 87)
  else if 'A' ≤ c ∧ c ≤ 'F' then some (c.toNat - 55)
  else none

def hexValue? (digits : List Char) : Option Nat :=
  digits.foldlM (fun value digit => (hexDigit? digit).map (16 * value + ·)) 0

def readEscape (cursor : Cursor) : Option (Char × Cursor) :=
  match cursor.peek 0 with
  | none => none
  | some letter =>
      match escapes.lookup letter, codeWidths.lookup letter with
      | some code, _ => some (Char.ofNat code, cursor.skip 1)
      | none, some width =>
          let digits := (cursor.rest.drop 1).take width
          if digits.length < width then none
          else
            match hexValue? digits with
            | none => none
            | some code =>
                if (0xd800 ≤ code && code < 0xe000) || 0x10ffff < code then none
                else some (Char.ofNat code, cursor.skip (1 + width))
      | none, none => none

def readDouble : Nat → List Char → Cursor → Option (List Char × Cursor)
  | 0, _, _ => none
  | fuel + 1, read, cursor =>
      if cursor.seesDocumentMark then none
      else
        match cursor.peek 0 with
        | none => none
        | some c =>
            if c == '"' then some (read, cursor.skip 1)
            else if c == '\\' then
              if cursor.meets 1 isBreak then
                let (_, next) := (cursor.skip 1).readBreak
                match Gap.read (-1) (next.rest.length + 1) { crossed := true } next with
                | none => none
                | some (gap, next) => readDouble fuel (read ++ gap.fold) next
              else
                match readEscape (cursor.skip 1) with
                | none => none
                | some (escaped, next) => readDouble fuel (read ++ [escaped]) next
            else if isBlank c || isBreak c then
              match Gap.read (-1) (cursor.rest.length + 1) {} cursor with
              | none => none
              | some (gap, next) => readDouble fuel (read ++ gap.fold) next
            else readDouble fuel (read ++ [c]) (cursor.skip 1)

def isFlowMark (c : Char) : Bool :=
  c == ',' || c == '[' || c == ']' || c == '\x7b' || c == '\x7d'

def readWord (inFlow : Bool) : Nat → List Char → Cursor → Option (List Char × Cursor)
  | 0, read, cursor => some (read, cursor)
  | fuel + 1, read, cursor =>
      match cursor.peek 0 with
      | none => some (read, cursor)
      | some c =>
          if isBlank c || isBreak c then some (read, cursor)
          else if inFlow && c == ':' && cursor.meets 1 fun d => isFlowMark d || d == '?' then none
          else if c == ':' && cursor.endsWord 1 then some (read, cursor)
          else if inFlow && isFlowMark c then some (read, cursor)
          else readWord inFlow fuel (read ++ [c]) (cursor.skip 1)

/-- Reads a plain scalar, where later lines have to reach the column `indent` outside brackets. The
last part of the answer says whether the scalar was followed by a line break. -/
def readPlain (inFlow : Bool) (indent : Int) :
    Nat → List Char → Gap → Cursor → Option (List Char × Cursor × Bool)
  | 0, _, _, _ => none
  | fuel + 1, read, gap, cursor =>
      if cursor.seesDocumentMark || cursor.sees 0 '#' then some (read, cursor, gap.crossed)
      else
        match readWord inFlow (cursor.rest.length + 1) [] cursor with
        | none => none
        | some (word, next) =>
            let joined := if word.isEmpty then read else read ++ gap.fold ++ word
            let open_ := if word.isEmpty then gap else {}
            if next.meets 0 fun c => isBlank c || isBreak c then
              match Gap.read indent (next.rest.length + 1) open_ next with
              | none => none
              | some (gap, after) =>
                  if !inFlow && (after.column : Int) < indent then some (joined, after, gap.crossed)
                  else readPlain inFlow indent fuel joined gap after
            else some (joined, next, open_.crossed)

/-- What becomes of the line breaks at the end of a block scalar. -/
inductive Chomp where
  | strip
  | clip
  | keep
  deriving DecidableEq, Repr

/-- The head of a block scalar: how it ends, and how much deeper than its parent it stands. -/
structure BlockHead where
  chomp : Chomp := .clip
  deeper : Option Nat := none

def readBlockHead (cursor : Cursor) : Option (BlockHead × Cursor) :=
  let chomp? := fun (cursor : Cursor) =>
    if cursor.sees 0 '+' then some Chomp.keep
    else if cursor.sees 0 '-' then some Chomp.strip
    else none
  let deeper? := fun (cursor : Cursor) =>
    (cursor.peek 0).bind fun c => if c.isDigit then some (c.toNat - 48) else none
  let head :=
    match chomp? cursor with
    | some chomp =>
        match deeper? (cursor.skip 1) with
        | some deeper => ({ chomp, deeper := some deeper }, cursor.skip 2)
        | none => ({ chomp }, cursor.skip 1)
    | none =>
        match deeper? cursor with
        | some deeper =>
            match chomp? (cursor.skip 1) with
            | some chomp => ({ chomp, deeper := some deeper }, cursor.skip 2)
            | none => ({ deeper := some deeper }, cursor.skip 1)
        | none => ({}, cursor)
  if head.1.deeper == some 0 then none else some head

/-- Reads empty lines, and the indentation of the line after them up to `indent`, or all of it if
that is still unknown. The greatest indentation seen is returned too. -/
def readEmptyLines (indent : Option Nat) :
    Nat → List Char → Nat → Cursor → Option (List Char × Nat × Cursor)
  | 0, breaks, deepest, cursor => some (breaks, deepest, cursor)
  | fuel + 1, breaks, deepest, cursor =>
      let spaces := (cursor.rest.takeWhile (· == ' ')).length
      let cursor :=
        match indent with
        | none => cursor.skip spaces
        | some indent => cursor.skip (min spaces (indent - cursor.column))
      let deepest := max deepest cursor.column
      let short := match indent with
        | none => true
        | some indent => cursor.column < indent
      if short && cursor.sees 0 '\t' then none
      else if cursor.meets 0 isBreak then
        let (read, next) := cursor.readBreak
        readEmptyLines indent fuel (breaks ++ read) deepest next
      else some (breaks, deepest, cursor)

/-- The parts of a block scalar read so far. -/
structure BlockText where
  text : List Char := []
  leading : List Char := []
  trailing : List Char := []
  blankBefore : Bool := false

def readLines (folded : Bool) (indent : Nat) :
    Nat → BlockText → Cursor → Option (BlockText × Cursor)
  | 0, block, cursor => some (block, cursor)
  | fuel + 1, block, cursor =>
      if cursor.column == indent && !cursor.rest.isEmpty then
        let blank := cursor.meets 0 isBlank
        let between :=
          if folded && block.leading == ['\n'] && !block.blankBefore && !blank then
            if block.trailing.isEmpty then [' '] else []
          else block.leading
        let line := cursor.rest.takeWhile fun c => !isBreak c
        let (leading, next) := (cursor.skip line.length).readBreak
        match readEmptyLines (some indent) (next.rest.length + 1) [] 0 next with
        | none => none
        | some (trailing, _, next) =>
            readLines folded indent fuel
              { text := block.text ++ between ++ block.trailing ++ line
                leading, trailing, blankBefore := blank } next
      else some (block, cursor)

/-- Reads a block scalar after its first mark, where `parent` is the indentation around it. -/
def readBlock (folded : Bool) (parent : Int) (cursor : Cursor) : Option (List Char × Cursor) := do
  let (head, cursor) ← readBlockHead cursor
  let blanks := cursor.skipWhile isBlank
  let cursor := if blanks.sees 0 '#' then blanks.skipLine else blanks
  if !cursor.endsLine 0 then none
  else
    let (_, cursor) := cursor.readBreak
    let known := head.deeper.map fun deeper => (max parent 0).toNat + deeper
    let (trailing, deepest, cursor) ← readEmptyLines known (cursor.rest.length + 1) [] 0 cursor
    let indent := known.getD (max deepest (max (parent + 1) 1).toNat)
    let (block, cursor) ← readLines folded indent (cursor.rest.length + 1) { trailing } cursor
    let tail :=
      match head.chomp with
      | .strip => []
      | .clip => block.leading
      | .keep => block.leading ++ block.trailing
    some (block.text ++ tail, cursor)

end Resemblance.Yaml.Scalar
