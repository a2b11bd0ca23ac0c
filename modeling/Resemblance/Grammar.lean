import Resemblance.Digest
import Resemblance.Shape
import Resemblance.ShapeScores
import Resemblance.Validity
import Resemblance.Vocabulary

/-!
Grammars, and what a single source shows under one: its tree if it has no faults, its vocabulary,
and its analysis, which is all that comparisons need to know of it.
-/

namespace Resemblance

abbrev Grammar := String → SyntaxTree

/-- The grammar of known trees, which are found by the digests of their sources. Other sources have
a tree without anything in it. -/
def Grammar.ofTrees (trees : List (String × SyntaxTree)) : Grammar := fun source =>
  (trees.lookup (Digest.ofText source)).getD
    (.node ⟨"module", true, false, false, false, 0, 0⟩ [])

def Grammar.clean (grammar : Grammar) (source : String) : Except Failure SyntaxTree :=
  (grammar source).clean source

def Grammar.checkParsed (grammar : Grammar) (source : String) : Validity × Option SyntaxTree :=
  let tree := grammar source
  let validity := Validity.ofTree source tree
  if validity.isValid then (validity, some tree) else (validity, none)

def Grammar.check (grammar : Grammar) (source : String) : Validity :=
  (grammar.checkParsed source).1

def Grammar.vocabulary (grammar : Grammar) (source : String) : Vocabulary :=
  .ofSource source (grammar.clean source).toOption

/-- What comparisons need to know of a single source. -/
structure Analysis where
  validity : Validity
  profile : Option ShapeProfile
  vocabulary : Vocabulary

namespace Analysis

/-- Analyses a source. An invalid one has no profile, and its comments are found line by line. -/
def ofSource (grammar : Grammar) (editLimit : Nat) (source : String) : Analysis :=
  let (validity, tree) := grammar.checkParsed source
  { validity
    profile := tree.map fun tree => .ofShape editLimit (.ofTree source.toList tree)
    vocabulary := .ofSource source tree }

end Analysis
end Resemblance
