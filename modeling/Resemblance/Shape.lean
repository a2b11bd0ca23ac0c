import Resemblance.Hasher
import Resemblance.SyntaxTree

/-!
The shape of a source: its parse tree reduced to named nodes that are not comments. A node without
any such child is a leaf and carries its text.

Shapes are laid out flat. Every node stands before those below it and names its children by their
places, so that what depends on a node's subtrees can be computed from the last node to the first.
-/

namespace Resemblance

/-- A node of a shape with its kind, the text of a leaf, its depth counted from one at the root, and
the places of its children. -/
structure ShapeNode where
  kind : String
  text : Option String
  depth : Nat
  children : Array Nat
  deriving DecidableEq, Repr

def ShapeNode.addChild (place : Nat) (node : ShapeNode) : ShapeNode :=
  { node with children := node.children.push place }

structure Shape where
  nodes : Array ShapeNode
  deriving DecidableEq, Repr

namespace Shape

/-- A parse tree that is not laid out yet, with its depth and the place of its parent. -/
structure Pending where
  tree : SyntaxTree
  depth : Nat
  parent : Option Nat

def Pending.node (source : List Char) (pending : Pending) : ShapeNode where
  kind := pending.tree.head.kind
  text := if pending.tree.kept.isEmpty then some (pending.tree.head.textIn source) else none
  depth := pending.depth
  children := #[]

def Pending.below (place : Nat) (pending : Pending) : List Pending :=
  pending.tree.kept.map fun child => ⟨child, pending.depth + 1, some place⟩

theorem Pending.below_trees (place : Nat) (pending : Pending) :
    (pending.below place).map Pending.tree = pending.tree.kept := by
  simp [Pending.below, Function.comp_def]

def enter (nodes : Array ShapeNode) (parent : Option Nat) (node : ShapeNode) : Array ShapeNode :=
  match parent with
  | some place => (nodes.push node).modify place (ShapeNode.addChild nodes.size)
  | none => nodes.push node

/-- Lays out the trees on a stack, the top one first, behind the nodes that are there. -/
def layOut (source : List Char) : List Pending → Array ShapeNode → Array ShapeNode
  | [], nodes => nodes
  | pending :: rest, nodes =>
      layOut source (pending.below nodes.size ++ rest)
        (enter nodes pending.parent (pending.node source))
termination_by stack => SyntaxTree.sizes (stack.map Pending.tree)
decreasing_by
  simp only [List.map_append, List.map_cons, Pending.below_trees, SyntaxTree.sizes_append,
    SyntaxTree.sizes]
  have := pending.tree.sizes_kept_lt
  omega

/-- The shape of a parse tree. What stands below a dropped node is dropped with it. -/
def ofTree (source : List Char) (tree : SyntaxTree) : Shape :=
  ⟨layOut source [⟨tree, 1, none⟩] #[]⟩

def size (shape : Shape) : Nat :=
  shape.nodes.size

variable {β : Type}

def held (cells : Array (Option β)) (places : Array Nat) : List β :=
  places.toList.filterMap fun place => cells[place]?.join

/-- Fills the first cells, the last of them first: each with what `combine` makes of the kind and
the text of the node at its place, and of what the cells of its children hold. -/
def fill (combine : String → Option String → List β → β) (nodes : Array ShapeNode) :
    Nat → Array (Option β) → Array (Option β)
  | 0, cells => cells
  | place + 1, cells =>
      match nodes[place]? with
      | none => fill combine nodes place cells
      | some node =>
          fill combine nodes place
            (cells.setIfInBounds place
              (some (combine node.kind node.text (held cells node.children))))

def bottomUp (combine : String → Option String → List β → β) (shape : Shape) :
    Array (Option β) :=
  fill combine shape.nodes shape.size (Array.replicate shape.size none)

def digests {H : Type} [BEq H] (hasher : Hasher H) (shape : Shape) : List H :=
  ((bottomUp hasher.combine shape).toList.filterMap id).eraseDups

end Shape
end Resemblance
