import Resemblance.Yaml.Cursor
import Resemblance.Yaml.Scalars

/-!
Writing YAML in block style. A text is written plainly if it reads back as that text, else between
single quotes, as a literal block if it has several lines, and with escapes between double quotes if
nothing else can hold it.
-/

namespace Resemblance.Yaml

def isPrintable (c : Char) : Bool :=
  let n := c.toNat
  n == 0xa || (0x20 ≤ n && n ≤ 0x7e) || (0xa0 ≤ n && n ≤ 0xfffd && n != 0xfeff)

structure TextTraits where
  /-- Has a mark that would end or change a plain scalar. -/
  marked : Bool
  special : Bool
  breaks : Bool
  blankEdge : Bool
  trailingSpace : Bool
  spaceAfterBreak : Bool
  breakAfterSpace : Bool

def neighbours (first second : Char → Bool) : List Char → Bool
  | a :: b :: rest => (first a && second b) || neighbours first second (b :: rest)
  | _ => false

def endsHere : List Char → Bool
  | [] => true
  | c :: _ => isBlank c || isBreak c

/-- Whether a text has a mark after its first character: a colon at the end of a word, or a number
sign at the beginning of one. -/
def markedInside (spaceBefore : Bool) : List Char → Bool
  | [] => false
  | c :: rest =>
      (c == ':' && endsHere rest) || (c == '#' && spaceBefore) ||
        markedInside (isBlank c || isBreak c) rest

def isMarked (cs : List Char) : Bool :=
  match cs with
  | [] => false
  | c :: rest =>
      ['-', '-', '-'].isPrefixOf cs || ['.', '.', '.'].isPrefixOf cs ||
        "#,[]&*!|>\"%@".toList.contains c || c == '\x7b' || c == '\x7d' || c.toNat == 39 ||
        c.toNat == 0x60 ||
        ((c == '?' || c == ':' || c == '-') && endsHere rest) ||
        markedInside (isBlank c || isBreak c) rest

def TextTraits.ofText (cs : List Char) : TextTraits :=
  let edge := fun (c : Option Char) => c.any fun c => c == ' ' || isBreak c
  { marked := isMarked cs
    special := !cs.all isPrintable
    breaks := cs.any isBreak
    blankEdge := edge cs.head? || edge cs.getLast?
    trailingSpace := cs.getLast? == some ' '
    spaceAfterBreak := neighbours isBreak (· == ' ') cs
    breakAfterSpace := neighbours (· == ' ') isBreak cs }

inductive TextStyle where
  | plain
  | single
  | double
  | literal
  deriving DecidableEq, Repr

def TextStyle.ofText (text : String) : TextStyle :=
  let cs := text.toList
  let traits := TextTraits.ofText cs
  let spoilt := traits.breakAfterSpace || traits.special
  let quoted := if traits.spaceAfterBreak || spoilt then .double else .single
  if cs.contains '\n' then if traits.trailingSpace || spoilt then .double else .literal
  else if isAmbiguous text then quoted
  else if traits.blankEdge || traits.spaceAfterBreak || spoilt || traits.breaks || traits.marked
    then
    quoted
  else .plain

def indentation (indent : Nat) : List Char :=
  List.replicate indent ' '

/-- A text between single quotes; after a break the text goes on at the indentation. -/
def writeSingle (indent : Nat) (afterBreak : Bool) : List Char → List Char
  | [] => if afterBreak then indentation indent else []
  | c :: rest =>
      if isBreak c then c :: writeSingle indent true rest
      else
        let written := if c.toNat == 39 then [c, c] else [c]
        (if afterBreak && c != ' ' then indentation indent else []) ++
          written ++ writeSingle indent (afterBreak && c == ' ') rest

def hexDigits (width n : Nat) : List Char :=
  let digits := (Nat.toDigits 16 n).map Char.toUpper
  List.replicate (width - digits.length) '0' ++ digits

def escapeLetters : List (Nat × Char) :=
  [(0, '0'), (7, 'a'), (8, 'b'), (9, 't'), (10, 'n'), (11, 'v'), (12, 'f'), (13, 'r'), (27, 'e'),
   (34, '"'), (92, '\\'), (0x85, 'N'), (0xa0, '_'), (0x2028, 'L'), (0x2029, 'P')]

def writeEscaped (c : Char) : List Char :=
  if isPrintable c && !isBreak c && c != '"' && c != '\\' then [c]
  else
    match escapeLetters.lookup c.toNat with
    | some letter => ['\\', letter]
    | none =>
        if c.toNat ≤ 0xff then '\\' :: 'x' :: hexDigits 2 c.toNat
        else if c.toNat ≤ 0xffff then '\\' :: 'u' :: hexDigits 4 c.toNat
        else '\\' :: 'U' :: hexDigits 8 c.toNat

def writeLiteralLines (indent : Nat) (lineStart : Bool) : List Char → List Char
  | [] => []
  | c :: rest =>
      if isBreak c then c :: writeLiteralLines indent true rest
      else
        (if lineStart then indentation indent else []) ++
          c :: writeLiteralLines indent false rest

/-- How a literal block ends: without its last break, with just that one, or with more. -/
def literalEnd (cs : List Char) : List Char :=
  match cs.reverse with
  | [] => ['-']
  | [c] => if isBreak c then ['+'] else ['-']
  | c :: d :: _ => if !isBreak c then ['-'] else if isBreak d then ['+'] else []

def writeLiteral (indent : Nat) (cs : List Char) : List Char :=
  let deeper := if cs.head?.any fun c => c == ' ' || isBreak c then ['2'] else []
  '|' :: deeper ++ literalEnd cs ++ '\n' :: writeLiteralLines indent true cs

def endsItsLine (written : List Char) : Bool :=
  written.getLast?.any isBreak

/-- A text, where `indent` is the indentation of its further lines. -/
def writeText (indent : Nat) (text : String) : List Char :=
  let cs := text.toList
  match TextStyle.ofText text with
  | .plain => cs
  | .single => Char.ofNat 39 :: writeSingle indent false cs ++ [Char.ofNat 39]
  | .double => '"' :: cs.flatMap writeEscaped ++ ['"']
  | .literal => writeLiteral indent cs

def writeScalar (indent : Nat) (plain : Bool) (text : String) : List Char :=
  let written := if plain then text.toList else writeText indent text
  ' ' :: if endsItsLine written then written else written ++ ['\n']

mutual

/-- A value after its key or its mark, with the line break that ends it, where `indent` is the
indentation of the key. Sequences stand under their key without indentation. -/
def writeValue (indent : Nat) : Yaml → List Char
  | .scalar plain text => writeScalar (indent + 2) plain text
  | .sequence [] => " []\n".toList
  | .sequence items => '\n' :: writeItems indent items
  | .mapping [] => " \x7b\x7d\n".toList
  | .mapping members => '\n' :: writeMembers (indent + 2) members
  | .cycle => ['\n']

def writeItems (indent : Nat) : List Yaml → List Char
  | [] => []
  | item :: rest => indentation indent ++ '-' :: writeValue indent item ++ writeItems indent rest

def writeMembers (indent : Nat) : List (Yaml × Yaml) → List Char
  | [] => []
  | (key, value) :: rest =>
      let name := (toText? key).getD ""
      indentation indent ++ name.toList ++ ':' :: writeValue indent value ++
        writeMembers indent rest

end

def write : Yaml → String
  | .mapping members => String.ofList (writeMembers 0 members)
  | value => String.ofList ((writeValue 0 value).drop 1)

end Resemblance.Yaml
