import Resemblance.Overlap
import Resemblance.SyntaxTree
import Resemblance.Tally
import Resemblance.Text.Case
import Resemblance.Text.Line
import Resemblance.Token

/-!
The vocabulary of a source: five sets of lower-case texts, each compared by its overlap. Comments do
not count; they are found in the parse tree where there is one, and line by line otherwise.
-/

namespace Resemblance

def reservedWords : List String :=
  ["false", "none", "true", "and", "as", "assert", "async", "await", "break", "class",
   "continue", "def", "del", "elif", "else", "except", "finally", "for", "from", "global", "if",
   "import", "in", "is", "lambda", "nonlocal", "not", "or", "pass", "raise", "return", "try",
   "while", "with", "yield"]

def builtinNames : List String :=
  ["int", "str", "list", "dict", "set", "tuple", "bool", "float", "len", "range", "print",
   "input", "open", "file", "type", "object"]

structure Vocabulary where
  tokens : List String
  words : List String
  identifiers : List String
  keywords : List String
  names : List String

structure VocabularyScores where
  tokens : Float
  words : Float
  identifiers : Float
  keywords : Float
  names : Float

namespace Vocabulary

def withoutLineComments (source : List Char) : List Char :=
  Text.joinWith ['\n']
    (((Text.lines source).map fun line => line.takeWhile (· != '#')).filter
      fun line => !Text.isAllBlank line)

def startsName : List Char → Bool
  | [] => false
  | c :: _ => Text.isAlphabetic c || c == '_'

def setOf (texts : List String) : List String :=
  distinct textLe texts

/-- The vocabulary of a text that has no comments, where `names` are its names if they are known. -/
def ofStripped (stripped : List Char) (names : Option (List String)) : Vocabulary :=
  let chopped := Token.chop stripped
  let small := fun token => Text.lower (String.ofList token)
  let words := setOf ((chopped.filter startsName).map small)
  { tokens := setOf (chopped.map small)
    words
    identifiers := words.filter fun word =>
      !reservedWords.contains word && !builtinNames.contains word
    keywords := words.filter reservedWords.contains
    names := match names with
      | some names => setOf (names.map Text.lower)
      | none => words }

def ofSource (source : String) : Option SyntaxTree → Vocabulary
  | some tree => ofStripped (tree.withoutComments source) (some (tree.identifiers source))
  | none => ofStripped (withoutLineComments source.toList) none

def overlap (a b : List String) : Ratio :=
  if a.isEmpty && b.isEmpty then Ratio.one
  else ⟨Overlap.shared a b, a.length + b.length - Overlap.shared a b⟩

theorem overlap_eq_ratio (a b : List String) : overlap a b = Overlap.ratio a b :=
  (Overlap.ratio_eq a b).symm

def compare (reference candidate : Vocabulary) : VocabularyScores :=
  let score := fun (set : Vocabulary → List String) =>
    (overlap (set reference) (set candidate)).toFloat
  { tokens := score Vocabulary.tokens
    words := score Vocabulary.words
    identifiers := score Vocabulary.identifiers
    keywords := score Vocabulary.keywords
    names := score Vocabulary.names }

end Vocabulary
end Resemblance
