import Resemblance.Failure
import Resemblance.SyntaxTree

/-!
Validity of a source: whether its parse tree is free of faults, and otherwise a description of the
first one. Structure and delegate metrics are computed for valid sources only.
-/

namespace Resemblance

def languageName : String := "python"

/-- Where a source is first at fault. -/
structure Fault where
  place : Text.Place
  missing : Bool
  kind : String
  deriving DecidableEq, Repr

namespace Fault

def ofNode (source : String) (node : Node) : Fault :=
  ⟨Text.placeAt node.start source, node.missing, node.kind⟩

def first? (source : String) (tree : SyntaxTree) : Option Fault :=
  tree.firstFault.map (ofNode source)

def describe (fault : Fault) : String :=
  let line := fault.place.line
  let column := fault.place.column
  if fault.missing then s!"missing {fault.kind} at line {line}, column {column}"
  else s!"syntax error at line {line}, column {column}"

def toFailure (fault : Fault) : Failure :=
  .parse languageName fault.describe (some fault.place)

end Fault

/-- Whether a source parses cleanly, and if not, why. -/
inductive Validity where
  | valid
  | invalid (reason : String)
  deriving DecidableEq, Repr

namespace Validity

def isValid : Validity → Bool
  | valid => true
  | invalid _ => false

def reason? : Validity → Option String
  | valid => none
  | invalid reason => some reason

def ofTree (source : String) (tree : SyntaxTree) : Validity :=
  match Fault.first? source tree with
  | none => valid
  | some fault => invalid fault.describe

end Validity

/-- The tree of a source without faults, otherwise the failure that names the first fault. -/
def SyntaxTree.clean (source : String) (tree : SyntaxTree) : Except Failure SyntaxTree :=
  match Fault.first? source tree with
  | none => .ok tree
  | some fault => .error fault.toFailure

end Resemblance
