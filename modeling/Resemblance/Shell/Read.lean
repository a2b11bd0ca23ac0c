import Resemblance.Shell

/-!
The written form of commands: words with quotes, operators between them, redirections, groups,
conditionals, and comments.
-/

namespace Resemblance.Shell

/-- A word, or an operator between words. -/
inductive Piece where
  | word (text : List Char)
  | operator (text : List Char)
  deriving DecidableEq, Repr

/-- What the number of the shell's own process is read as. -/
def ownProcess : List Char := ['$', '$']

/-- The operators, longer ones before their beginnings. -/
def operators : List (List Char) :=
  [">&", "&&", "||", ">>", ";", "|", "&", ">", "<", "(", ")", "\n"].map String.toList

def operator? (cs : List Char) : Option (List Char) :=
  operators.find? fun operator => operator.isPrefixOf cs

def stream? (text : List Char) : Option Stream :=
  if text == ['0'] then some .input
  else if text == ['1'] then some .output
  else if text == ['2'] then some .errors
  else none

def redirects (operator : List Char) : Bool :=
  operator.head? == some '>' || operator.head? == some '<'

/-- How the next character is read. -/
inductive Quoting where
  | plain
  | single
  | double
  /-- Up to the end of the line. -/
  | comment
  deriving DecidableEq

def closeWord (word : Option (List Char)) (pieces : List Piece) : List Piece :=
  match word with
  | none => pieces
  | some reversed => .word reversed.reverse :: pieces

/-- Cuts a text into pieces. The word being read is given in reverse, if there is one. -/
def cut : Quoting → Option (List Char) → Nat → List Char → Option (List Piece)
  | .plain, word, _, [] => some (closeWord word [])
  | .comment, _, _, [] => some []
  | _, _, _, [] => none
  | quoting, word, passed + 1, _ :: rest => cut quoting word passed rest
  | .comment, _, 0, c :: rest =>
      if c = '\n' then (cut .plain none 0 rest).map (.operator [c] :: ·)
      else cut .comment none 0 rest
  | .single, word, 0, c :: rest =>
      if c.toNat = 39 then cut .plain word 0 rest
      else cut .single (some (c :: word.getD [])) 0 rest
  | .double, word, 0, c :: rest =>
      if c = '"' then cut .plain word 0 rest
      else if c = '\\' then
        match rest with
        | next :: _ =>
            if next = '"' || next = '\\' || next = '$' then
              cut .double (some (next :: word.getD [])) 1 rest
            else cut .double (some (c :: word.getD [])) 0 rest
        | [] => none
      else cut .double (some (c :: word.getD [])) 0 rest
  | .plain, word, 0, c :: rest =>
      if c.toNat = 39 then cut .single (some (word.getD [])) 0 rest
      else if c = '"' then cut .double (some (word.getD [])) 0 rest
      else if c = '\\' then
        match rest with
        | next :: _ => cut .plain (some (next :: word.getD [])) 1 rest
        | [] => some (closeWord word [])
      else if c = ' ' || c = '\t' then (cut .plain none 0 rest).map (closeWord word)
      else if c = '#' && word.isNone then cut .comment none 0 rest
      else
        match operator? (c :: rest) with
        | none => cut .plain (some (c :: word.getD [])) 0 rest
        | some operator =>
            (cut .plain none (operator.length - 1) rest).map fun pieces =>
              if redirects operator && (word.bind stream?).isSome then
                .operator (word.getD [] ++ operator) :: pieces
              else closeWord word (.operator operator :: pieces)

def pieces (text : String) : Option (List Piece) :=
  cut .plain none 0 text.toList

def Piece.isWord (text : String) : Piece → Bool
  | .word cs => cs == text.toList
  | .operator _ => false

def Piece.isOperator (text : String) : Piece → Bool
  | .word _ => false
  | .operator cs => cs == text.toList

def Piece.separates (piece : Piece) : Bool :=
  piece.isOperator ";" || piece.isOperator "\n"

def closers : List String := ["then", "elif", "else", "fi", "\x7d"]

def Piece.closes (piece : Piece) : Bool :=
  closers.any piece.isWord || piece.isOperator ")"

/-- The redirection that an operator and the word after it make. A number in front of the operator
names the stream. -/
def redirection? (operator target : List Char) : Option Redirection :=
  let named := stream? (operator.take 1)
  let sign := if named.isSome then operator.drop 1 else operator
  if sign == ['>', '&'] then (stream? target).map fun other => ⟨named.getD .output, .stream other⟩
  else if sign == ['>'] || sign == ['>', '>'] then some ⟨named.getD .output, .nowhere⟩
  else if sign == ['<'] then some ⟨.input, .nowhere⟩
  else none

def readSimple : List Piece → List String × List Redirection × List Piece
  | .operator operator :: .word target :: rest =>
      match redirection? operator target with
      | some redirection =>
          let (words, redirections, rest) := readSimple rest
          (words, redirection :: redirections, rest)
      | none => ([], [], .operator operator :: .word target :: rest)
  | .word word :: rest =>
      let (words, redirections, rest) := readSimple rest
      (String.ofList word :: words, redirections, rest)
  | rest => ([], [], rest)

inductive Level where
  | list
  | chain
  /-- The rest of a chain after what it starts with. -/
  | chained (first : Command)
  | pipeline
  /-- Pieces of a pipeline, without a sign of negation. -/
  | positive
  | single
  /-- The parts of a conditional after its first word. -/
  | conditional
  /-- The rest of a group after the piece that opens it. -/
  | group (apart : Bool)

def expect (word : String) : List Piece → Option (List Piece)
  | piece :: rest => if piece.isWord word then some rest else none
  | [] => none

def readCommand : Nat → Level → List Piece → Option (Command × List Piece)
  | 0, _, _ => none
  | fuel + 1, .list, pieces =>
      match pieces.dropWhile Piece.separates with
      | [] => some (.skip, [])
      | piece :: rest =>
          if piece.closes then some (.skip, piece :: rest)
          else do
            let (first, rest) ← readCommand fuel .chain (piece :: rest)
            match rest with
            | next :: _ =>
                if next.separates then do
                  let (second, rest) ← readCommand fuel .list rest
                  some (.sequence first second, rest)
                else if next.closes then some (first, rest)
                else none
            | [] => some (first, [])
  | fuel + 1, .chain, pieces => do
      let (first, rest) ← readCommand fuel .pipeline pieces
      readCommand fuel (.chained first) rest
  | fuel + 1, .chained first, pieces =>
      match pieces with
      | next :: after =>
          if next.isOperator "&&" then do
            let (second, rest) ← readCommand fuel .pipeline after
            readCommand fuel (.chained (.both first second)) rest
          else if next.isOperator "||" then do
            let (second, rest) ← readCommand fuel .pipeline after
            readCommand fuel (.chained (.either first second)) rest
          else some (first, pieces)
      | [] => some (first, [])
  | fuel + 1, .pipeline, pieces =>
      match pieces with
      | piece :: rest =>
          if piece.isWord "!" then
            (readCommand fuel .positive rest).map fun (command, rest) => (.negation command, rest)
          else readCommand fuel .positive pieces
      | [] => none
  | fuel + 1, .positive, pieces => do
      let (first, rest) ← readCommand fuel .single pieces
      match rest with
      | next :: after =>
          if next.isOperator "|" then do
            let (second, rest) ← readCommand fuel .positive after
            some (.pipe first second, rest)
          else some (first, rest)
      | [] => some (first, [])
  | fuel + 1, .single, pieces =>
      match pieces with
      | piece :: rest =>
          if piece.isWord "if" then readCommand fuel .conditional rest
          else if piece.isWord "\x7b" then readCommand fuel (.group false) rest
          else if piece.isOperator "(" then readCommand fuel (.group true) rest
          else
            let (words, redirections, rest) := readSimple (piece :: rest)
            if words.isEmpty && redirections.isEmpty then none
            else some (.simple words redirections, rest)
      | [] => none
  | fuel + 1, .conditional, pieces => do
      let (condition, rest) ← readCommand fuel .list pieces
      let (yes, rest) ← readCommand fuel .list (← expect "then" rest)
      match rest with
      | piece :: rest =>
          if piece.isWord "fi" then some (.choice condition yes .skip, rest)
          else if piece.isWord "elif" then do
            let (no, rest) ← readCommand fuel .conditional rest
            some (.choice condition yes no, rest)
          else if piece.isWord "else" then do
            let (no, rest) ← readCommand fuel .list rest
            some (.choice condition yes no, ← expect "fi" rest)
          else none
      | [] => none
  | fuel + 1, .group apart, pieces => do
      let (command, rest) ← readCommand fuel .list pieces
      match rest with
      | piece :: rest =>
          if if apart then piece.isOperator ")" else piece.isWord "\x7d" then
            let (words, redirections, rest) := readSimple rest
            if words.isEmpty then some (.group apart command redirections, rest) else none
          else none
      | [] => none

def read (text : String) : Option Command := do
  let pieces ← pieces text
  match ← readCommand (8 * pieces.length + 8) .list pieces with
  | (command, []) => some command
  | _ => none

end Resemblance.Shell
