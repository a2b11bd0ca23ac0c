import Resemblance.SyntaxTree

/-!
Trees as lists: every node with the number of its children, parents before children, siblings in
order.
-/

namespace Resemblance.SyntaxTree

/-- Puts a node on top of the trees that follow it, the first of which are its children. -/
def gather (entry : Node × Nat) (trees : List SyntaxTree) : Option (List SyntaxTree) :=
  if entry.2 ≤ trees.length then some (node entry.1 (trees.take entry.2) :: trees.drop entry.2)
  else none

/-- The trees whose nodes a list gives one after the other. -/
def forest : List (Node × Nat) → Option (List SyntaxTree)
  | [] => some []
  | entry :: rest => (forest rest).bind (gather entry)

def ofPreorder (entries : List (Node × Nat)) : Option SyntaxTree :=
  match forest entries with
  | some [tree] => some tree
  | _ => none

mutual

def preorder : SyntaxTree → List (Node × Nat)
  | node head children => (head, children.length) :: preorders children

def preorders : List SyntaxTree → List (Node × Nat)
  | [] => []
  | tree :: rest => preorder tree ++ preorders rest

end

end Resemblance.SyntaxTree
