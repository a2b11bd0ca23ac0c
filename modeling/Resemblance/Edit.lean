import Resemblance.Hasher
import Resemblance.Shape

/-!
Edit distance of shapes: the least total weight of whole subtrees to delete and to insert so that
one ordered tree becomes the other, where two nodes of one kind may be kept and only their subtrees
edited. Leaf texts play no part.
-/

namespace Resemblance

/-- A node of an edit tree with the digest of its kind, its weight, and its subtrees in source
order. -/
inductive EditTree (H : Type) where
  | node (kind : H) (weight : Nat) (children : List (EditTree H))

/-- An edit tree with the weight of all its nodes. -/
structure WeighedTree (H : Type) where
  root : EditTree H
  weight : Nat

namespace EditTree

variable {H : Type}

def kind : EditTree H → H
  | node kind _ _ => kind

def children : EditTree H → List (EditTree H)
  | node _ _ children => children

mutual

def weight : EditTree H → Nat
  | node _ weight children => weight + weights children

def weights : List (EditTree H) → Nat
  | [] => 0
  | tree :: rest => weight tree + weights rest

end

end EditTree

namespace Edit

def unitWeight (_ : String) : Nat := 1

def kindWeight (kind : String) : Nat :=
  if kind == "function_definition" || kind == "class_definition" then 3
  else if kind == "if_statement" || kind == "for_statement" || kind == "while_statement" ||
      kind == "try_statement" then 2
  else 1

variable {H : Type}

/-- The edit tree of a shape, with the weights of its nodes by their kinds; a shape without nodes
has none. -/
def ofShape (hasher : Hasher H) (weigh : String → Nat) (shape : Shape) : Option (WeighedTree H) :=
  let built := shape.bottomUp fun kind _ children =>
    .node (hasher.ofKind kind) (weigh kind) children
  built[0]?.join.map fun root =>
    ⟨root, shape.nodes.foldl (fun total node => total + weigh node.kind) 0⟩

/-- The weights of all suffixes of a list, the longest first. -/
def suffixWeights : List (EditTree H) → List Nat
  | [] => [0]
  | tree :: rest =>
      match suffixWeights rest with
      | [] => []
      | below :: more => (tree.weight + below) :: below :: more

def firstCost : List Nat → Nat
  | [] => 0
  | cost :: _ => cost

variable [BEq H]

/-- Costs of turning a list that starts with a tree into every suffix of `targets`, longest first:
the tree weighs `removal`, has the given kind, and its subtrees become those of a target at the cost
`inner`. `below` are the costs for the list without that tree. -/
def costsWith (removal : Nat) (kind : H) (inner : List (EditTree H) → Nat) :
    List (EditTree H) → List Nat → List Nat
  | target :: targets, here :: next :: more =>
      match costsWith removal kind inner targets (next :: more) with
      | [] => []
      | after :: others =>
          let apart := min (removal + here) (target.weight + after)
          let best :=
            if kind == target.kind then min apart (inner target.children + next) else apart
          best :: after :: others
  | _, here :: _ => [removal + here]
  | _, [] => []

mutual

def costsOfTree : EditTree H → List (EditTree H) → List Nat → List Nat
  | .node kind weight children, targets, below =>
      costsWith (weight + EditTree.weights children) kind
        (fun inner => firstCost (costsOfList children inner)) targets below

/-- Costs of turning a list of trees into every suffix of the targets, longest first. -/
def costsOfList : List (EditTree H) → List (EditTree H) → List Nat
  | [], targets => suffixWeights targets
  | tree :: rest, targets => costsOfTree tree targets (costsOfList rest targets)

end

def distance (reference candidate : EditTree H) : Nat :=
  firstCost (costsOfList [reference] [candidate])

end Edit
end Resemblance
