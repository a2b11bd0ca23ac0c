import Resemblance.Hasher

/-!
Shapes as trees. A tree whose siblings stand in increasing order can serve as its own digest: such
digests never collide.
-/

namespace Resemblance

/-- A node of a shape with its kind, the text of a leaf, and its subtrees in source order. -/
inductive ShapeTree where
  | node (kind : String) (text : Option String) (children : List ShapeTree)

namespace ShapeTree

mutual

/-- Trees in a total order: by kind, by text, then by their subtrees from left to right. -/
def compare : ShapeTree → ShapeTree → Ordering
  | node kind text children, node kind' text' children' =>
      (Ord.compare kind kind').then
        ((compareText text text').then (compareAll children children'))

def compareAll : List ShapeTree → List ShapeTree → Ordering
  | [], [] => .eq
  | [], _ :: _ => .lt
  | _ :: _, [] => .gt
  | tree :: rest, tree' :: rest' => (compare tree tree').then (compareAll rest rest')

def compareText : Option String → Option String → Ordering
  | none, none => .eq
  | none, some _ => .lt
  | some _, none => .gt
  | some text, some text' => Ord.compare text text'

end

instance : BEq ShapeTree where
  beq a b := compare a b == .eq

def le (a b : ShapeTree) : Bool :=
  compare a b != .gt

/-- Every node is its own digest, with the digests of its subtrees below it. -/
def hasher : Hasher ShapeTree where
  ofKind kind := node kind none []
  ofNode := node
  le := le

end ShapeTree
end Resemblance
