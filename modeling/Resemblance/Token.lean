import Resemblance.Text.Letter
import Resemblance.Text.Blank

/-!
Tokens of a source text: maximal runs of word characters, and single characters of any other kind.
White space separates tokens and belongs to none.
-/

namespace Resemblance.Token

open Text

def isWordChar (c : Char) : Bool :=
  isAlphanumeric c || c == '_'

def startsWord : List Char → Bool
  | [] => false
  | c :: _ => isWordChar c

def glue (c : Char) : List (List Char) → List (List Char)
  | [] => [[c]]
  | token :: tokens => (c :: token) :: tokens

/-- The tokens of a text, as characters. A word character joins the word that follows it at once. -/
def chop : List Char → List (List Char)
  | [] => []
  | c :: rest =>
      if isWordChar c then
        if startsWord rest then glue c (chop rest) else [c] :: chop rest
      else if isBlank c then chop rest
      else [c] :: chop rest

def tokens (text : String) : List String :=
  (chop text.toList).map String.ofList

def words (text : String) : List String :=
  ((chop text.toList).filter startsWord).map String.ofList

theorem chop_blank {c : Char} {rest : List Char} (other : isWordChar c = false)
    (blank : isBlank c = true) : chop (c :: rest) = chop rest := by
  simp [chop, other, blank]

theorem chop_sign {c : Char} {rest : List Char} (other : isWordChar c = false)
    (visible : isBlank c = false) : chop (c :: rest) = [c] :: chop rest := by
  simp [chop, other, visible]

end Resemblance.Token
