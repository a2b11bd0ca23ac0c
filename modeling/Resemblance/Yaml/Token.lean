import Resemblance.Yaml.Scalar

/-!
Tokens of a YAML text. Indentation becomes tokens that open and close blocks, and a key without a
mark of its own is recognised when the colon after it is met.
-/

namespace Resemblance.Yaml

inductive Token where
  | versionLine (major minor : Nat)
  | tagLine (handle : String)
  | documentStart
  | documentEnd
  | blockSequence
  | blockMapping
  | blockEnd
  | openSequence
  | closeSequence
  | openMapping
  | closeMapping
  | entry
  | comma
  | key
  | value
  | alias (name : String)
  | anchor (name : String)
  | tag (handle : String)
  | scalar (plain : Bool) (text : String)
  | finish
  deriving DecidableEq, Repr

/-- A place at which a key may have started: the token before which its mark would go. -/
structure KeyPlace where
  needed : Bool
  token : Nat
  line : Nat
  column : Nat
  index : Nat

/-- The state between two tokens. `keys` holds a place for every level of brackets, innermost
first. -/
structure Scanner where
  cursor : Cursor
  tokens : Array Token := #[]
  depth : Nat := 0
  indent : Int := -1
  outer : List Int := []
  keyAllowed : Bool := true
  keys : List (Option KeyPlace) := [none]

namespace Scanner

def push (s : Scanner) (token : Token) : Scanner :=
  { s with tokens := s.tokens.push token }

/-- Closes the blocks that are indented deeper than `column`. -/
def unrollTo (column : Int) : Nat → Scanner → Scanner
  | 0, s => s
  | fuel + 1, s =>
      if s.indent ≤ column then s
      else
        match s.outer with
        | [] => { s with indent := -1, tokens := s.tokens.push .blockEnd }
        | indent :: outer =>
            unrollTo column fuel { s with indent, outer, tokens := s.tokens.push .blockEnd }

def unroll (s : Scanner) (column : Int) : Scanner :=
  if s.depth = 0 then s.unrollTo column (s.outer.length + 1) else s

/-- Opens a block at a column, if it is deeper than the current one; its token goes before the token
with the given number. -/
def roll (s : Scanner) (column : Nat) (place : Nat) (token : Token) : Scanner :=
  if s.depth = 0 && s.indent < column then
    { s with
      indent := column
      outer := s.indent :: s.outer
      tokens := s.tokens.take place ++ #[token] ++ s.tokens.drop place }
  else s

/-- Forgets the key place of the current level, which must not be needed. -/
def dropKey (s : Scanner) : Option Scanner :=
  match s.keys with
  | some place :: outer => if place.needed then none else some { s with keys := none :: outer }
  | _ => some s

def saveKey (s : Scanner) : Option Scanner :=
  if s.keyAllowed then do
    let needed := s.depth = 0 && s.indent == (s.cursor.column : Int)
    let s ← s.dropKey
    let place : KeyPlace :=
      ⟨needed, s.tokens.size, s.cursor.line, s.cursor.column, s.cursor.index⟩
    some { s with keys := some place :: s.keys.drop 1 }
  else some s

/-- Forgets key places that lie too far back: a key fits in one line and in 1024 characters. -/
def dropStale (s : Scanner) : Option Scanner := do
  let keys ← s.keys.mapM fun key =>
    match key with
    | none => some none
    | some place =>
        if place.line < s.cursor.line || place.index + 1024 < s.cursor.index then
          if place.needed then none else some none
        else some (some place)
  some { s with keys }

def skipToToken : Nat → Scanner → Scanner
  | 0, s => s
  | fuel + 1, s =>
      let cursor := if s.cursor.index = 0 && s.cursor.meets 0 (·.toNat == 0xfeff)
        then s.cursor.skip 1
        else s.cursor
      let cursor := cursor.skipWhile fun c =>
        c == ' ' || (c == '\t' && (0 < s.depth || !s.keyAllowed))
      let cursor := if cursor.sees 0 '#' then cursor.skipLine else cursor
      if cursor.meets 0 isBreak then
        let (_, next) := cursor.readBreak
        skipToToken fuel { s with cursor := next, keyAllowed := s.keyAllowed || s.depth == 0 }
      else { s with cursor }

def scalarIndent (s : Scanner) : Int :=
  s.indent + 1

def isNameChar (c : Char) : Bool :=
  c.isAlphanum || c == '_' || c == '-'

def readName (cursor : Cursor) : String × Cursor :=
  let name := cursor.rest.takeWhile isNameChar
  (String.ofList name, cursor.skip name.length)

def digitsValue (digits : List Char) : Nat :=
  digits.foldl (fun value digit => 10 * value + (digit.toNat - 48)) 0

def finishLine (cursor : Cursor) : Option Cursor :=
  let cursor := cursor.skipWhile isBlank
  let cursor := if cursor.sees 0 '#' then cursor.skipLine else cursor
  if cursor.endsLine 0 then some cursor.readBreak.2 else none

/-- Reads the handle of a tag: an exclamation mark, and a name with another one after it. -/
def readHandle (cursor : Cursor) : Option (String × Cursor) :=
  if cursor.sees 0 '!' then
    let (name, next) := readName (cursor.skip 1)
    if next.sees 0 '!' then some ("!" ++ name ++ "!", next.skip 1)
    else if name.isEmpty then some ("!", next)
    else none
  else none

def isTagChar (c : Char) : Bool :=
  isNameChar c || ";/?:@&=+$.%!~*()".toList.contains c || c == Char.ofNat 39

def readDirective (s : Scanner) : Option Scanner := do
  let (name, cursor) := readName (s.cursor.skip 1)
  if name.isEmpty || !cursor.endsWord 0 then none
  else
    let cursor := cursor.skipWhile isBlank
    if name == "YAML" then
      let major := cursor.rest.takeWhile Char.isDigit
      let cursor := cursor.skip major.length
      if major.isEmpty || 9 < major.length || !cursor.sees 0 '.' then none
      else
        let cursor := cursor.skip 1
        let minor := cursor.rest.takeWhile Char.isDigit
        if minor.isEmpty || 9 < minor.length then none
        else
          let cursor ← finishLine (cursor.skip minor.length)
          some { s.push (.versionLine (digitsValue major) (digitsValue minor)) with cursor }
    else if name == "TAG" then
      let (handle, cursor) ← readHandle cursor
      if !cursor.meets 0 isBlank then none
      else
        let cursor := cursor.skipWhile isBlank
        let text := cursor.rest.takeWhile fun c => isTagChar c || c == ',' || c == '[' || c == ']'
        let cursor := cursor.skip text.length
        if text.isEmpty || !cursor.endsWord 0 then none
        else
          let cursor ← finishLine cursor
          some { s.push (.tagLine handle) with cursor }
    else none

def readReference (s : Scanner) (make : String → Token) : Option Scanner :=
  let (name, cursor) := readName (s.cursor.skip 1)
  let closed := cursor.endsWord 0 || cursor.meets 0 fun c =>
    "?:,]%@".toList.contains c || c == '\x7d' || c.toNat == 0x60
  if name.isEmpty || !closed then none else some { s.push (make name) with cursor }

def readTag (s : Scanner) : Option Scanner :=
  let finish := fun (handle : String) (cursor : Cursor) =>
    if cursor.endsWord 0 || (0 < s.depth && cursor.sees 0 ',') then
      some { s.push (.tag handle) with cursor }
    else none
  if s.cursor.sees 1 '<' then
    let cursor := s.cursor.skip 2
    let text := cursor.rest.takeWhile fun c => isTagChar c || c == ',' || c == '[' || c == ']'
    let cursor := cursor.skip text.length
    if text.isEmpty || !cursor.sees 0 '>' then none else finish "" (cursor.skip 1)
  else
    match readHandle s.cursor with
    | some (handle, cursor) =>
        let text := cursor.rest.takeWhile isTagChar
        if handle != "!" && text.isEmpty then none else finish handle (cursor.skip text.length)
    | none =>
        let cursor := s.cursor.skip 1
        let text := cursor.rest.takeWhile isTagChar
        finish "!" (cursor.skip text.length)

def readQuoted (s : Scanner) (single : Bool) : Option Scanner := do
  let s ← s.saveKey
  let cursor := s.cursor.skip 1
  let fuel := cursor.rest.length + 1
  let (text, cursor) ←
    if single then Scalar.readSingle fuel [] cursor else Scalar.readDouble fuel [] cursor
  some { s.push (.scalar false (String.ofList text)) with cursor, keyAllowed := false }

def readPlain (s : Scanner) : Option Scanner := do
  let s ← s.saveKey
  let (text, cursor, crossed) ←
    Scalar.readPlain (0 < s.depth) s.scalarIndent (s.cursor.rest.length + 2) [] {} s.cursor
  some { s.push (.scalar true (String.ofList text)) with cursor, keyAllowed := crossed }

def readBlock (s : Scanner) (folded : Bool) : Option Scanner := do
  let s ← s.dropKey
  let (text, cursor) ← Scalar.readBlock folded s.indent (s.cursor.skip 1)
  some { s.push (.scalar false (String.ofList text)) with cursor, keyAllowed := true }

def readOpening (s : Scanner) (token : Token) : Option Scanner := do
  let s ← s.saveKey
  some
    { s.push token with
      cursor := s.cursor.skip 1
      depth := s.depth + 1
      keys := none :: s.keys
      keyAllowed := true }

def readClosing (s : Scanner) (token : Token) : Option Scanner := do
  let s ← s.dropKey
  some
    { s.push token with
      cursor := s.cursor.skip 1
      depth := s.depth - 1
      keys := if s.depth = 0 then s.keys else s.keys.drop 1
      keyAllowed := false }

def readEntry (s : Scanner) : Option Scanner := do
  if s.depth = 0 && !s.keyAllowed then none
  else
    let s ← (s.roll s.cursor.column s.tokens.size .blockSequence).dropKey
    some { s.push .entry with cursor := s.cursor.skip 1, keyAllowed := true }

def readKeyMark (s : Scanner) : Option Scanner := do
  if s.depth = 0 && !s.keyAllowed then none
  else
    let s ← (s.roll s.cursor.column s.tokens.size .blockMapping).dropKey
    some { s.push .key with cursor := s.cursor.skip 1, keyAllowed := s.depth = 0 }

/-- Reads the mark of a value. If a key may have started before it, that key gets its mark now. -/
def readValueMark (s : Scanner) : Option Scanner :=
  let finish := fun (s : Scanner) (keyAllowed : Bool) =>
    some { s.push .value with cursor := s.cursor.skip 1, keyAllowed }
  match s.keys with
  | some place :: outer =>
      let tokens := s.tokens.take place.token ++ #[.key] ++ s.tokens.drop place.token
      let s := { s with tokens, keys := none :: outer }
      finish (s.roll place.column place.token .blockMapping) false
  | _ =>
      if s.depth = 0 && !s.keyAllowed then none
      else finish (s.roll s.cursor.column s.tokens.size .blockMapping) (s.depth = 0)

def readDocumentMark (s : Scanner) (token : Token) : Option Scanner := do
  let s ← (s.unroll (-1)).dropKey
  some { s.push token with cursor := s.cursor.skip 3, keyAllowed := false }

def isMark (c : Char) : Bool :=
  "-?:,[]#&*!|>\"%@".toList.contains c || c == '\x7b' || c == '\x7d' || c.toNat == 39 ||
    c.toNat == 0x60

def readAt (s : Scanner) (c : Char) : Option Scanner :=
  let cursor := s.cursor
  let inFlow := 0 < s.depth
  if cursor.column = 0 && c == '%' then do
    let s ← (s.unroll (-1)).dropKey
    { s with keyAllowed := false }.readDirective
  else if cursor.seesMark '-' then s.readDocumentMark .documentStart
  else if cursor.seesMark '.' then s.readDocumentMark .documentEnd
  else if c == '[' then s.readOpening .openSequence
  else if c == '\x7b' then s.readOpening .openMapping
  else if c == ']' then s.readClosing .closeSequence
  else if c == '\x7d' then s.readClosing .closeMapping
  else if c == ',' then do
    let s ← s.dropKey
    some { s.push .comma with cursor := s.cursor.skip 1, keyAllowed := true }
  else if c == '-' && cursor.endsWord 1 then s.readEntry
  else if c == '?' && (inFlow || cursor.endsWord 1) then s.readKeyMark
  else if c == ':' && (inFlow || cursor.endsWord 1) then s.readValueMark
  else if c == '*' || c == '&' then do
    let s ← s.saveKey
    { s with keyAllowed := false }.readReference (if c == '*' then .alias else .anchor)
  else if c == '!' then do
    let s ← s.saveKey
    { s with keyAllowed := false }.readTag
  else if c == '|' && !inFlow then s.readBlock false
  else if c == '>' && !inFlow then s.readBlock true
  else if c.toNat == 39 then s.readQuoted true
  else if c == '"' then s.readQuoted false
  else if !(isMark c || isBlank c) || (c == '-' && !cursor.meets 1 isBlank) ||
      (!inFlow && (c == '?' || c == ':') && !cursor.endsWord 1) then s.readPlain
  else none

def readAll : Nat → Scanner → Option Scanner
  | 0, _ => none
  | fuel + 1, s => do
      let s := s.skipToToken (s.cursor.rest.length + 1)
      let s ← s.dropStale
      let s := s.unroll s.cursor.column
      match s.cursor.peek 0 with
      | none =>
          let s ← (s.unroll (-1)).dropKey
          some (s.push .finish)
      | some c => readAll fuel (← s.readAt c)

end Scanner

def tokens (text : String) : Option (List Token) :=
  if text.toList.all isAllowed then
    (Scanner.readAll (text.length + 2) { cursor := .start text }).map (·.tokens.toList)
  else none

end Resemblance.Yaml
