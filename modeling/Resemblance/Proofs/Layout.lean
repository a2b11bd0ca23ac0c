import Mathlib.Data.List.Range
import Resemblance.Proofs.ShapeTree
import Resemblance.Proofs.SyntaxTree
import Resemblance.Shape

/-!
How a shape lays its tree out. The places of a node's children follow from the sizes of the subtrees
before them, which gives every node of the finished table in advance; the table is what the stack of
pending trees produces, step by step.
-/

namespace Resemblance

namespace ShapeTree

def places (start : Nat) : List ShapeTree → List Nat
  | [] => []
  | tree :: rest => start :: places (start + tree.size) rest

mutual

/-- The nodes of a tree whose root stands at a place and at a depth. -/
def rows (depth start : Nat) : ShapeTree → List ShapeNode
  | node kind text children =>
      ⟨kind, text, depth, (places (start + 1) children).toArray⟩ ::
        rowsAmong (depth + 1) (start + 1) children

def rowsAmong (depth start : Nat) : List ShapeTree → List ShapeNode
  | [] => []
  | tree :: rest => rows depth start tree ++ rowsAmong depth (start + tree.size) rest

end

theorem rows_among_length {trees : List ShapeTree} (depth start : Nat)
    (counted : ∀ tree ∈ trees, ∀ depth start, (tree.rows depth start).length = tree.size) :
    (rowsAmong depth start trees).length = sizes trees := by
  induction trees generalizing start with
  | nil => rfl
  | cons tree rest ih =>
      simp only [rowsAmong, sizes, List.length_append, counted tree (by simp),
        ih _ (fun other member => counted other (by simp [member]))]

theorem rows_length (tree : ShapeTree) (depth start : Nat) :
    (rows depth start tree).length = tree.size := by
  induction tree using tree_induction generalizing depth start with
  | step kind text children ih =>
      simp only [rows, size, List.length_cons, rows_among_length _ _ ih]
      omega

end ShapeTree

def ShapeNode.addChildren (places : List Nat) (node : ShapeNode) : ShapeNode :=
  { node with children := node.children ++ places.toArray }

namespace Shape

theorem modify_add_nothing (nodes : Array ShapeNode) (place : Nat) :
    nodes.modify place (ShapeNode.addChildren []) = nodes := by
  have same : ShapeNode.addChildren [] = id := by
    funext node
    simp [ShapeNode.addChildren]
  apply Array.ext'
  rw [Array.toList_modify, same, List.modify_id]

theorem modify_add_more (nodes : Array ShapeNode) (place first : Nat) (more : List Nat) :
    (nodes.modify place (ShapeNode.addChild first)).modify place (ShapeNode.addChildren more) =
      nodes.modify place (ShapeNode.addChildren (first :: more)) := by
  have composed : ShapeNode.addChildren more ∘ ShapeNode.addChild first =
      ShapeNode.addChildren (first :: more) := by
    funext node
    have joined : node.children.push first ++ more.toArray =
        node.children ++ (first :: more).toArray := by
      apply Array.ext'
      simp
    simp only [Function.comp_apply, ShapeNode.addChildren, ShapeNode.addChild, joined]
  apply Array.ext'
  simp only [Array.toList_modify, List.modify_modify_eq, composed]

theorem modify_append_left {first : Array ShapeNode} {place : Nat} (inside : place < first.size)
    (more : Array ShapeNode) (change : ShapeNode → ShapeNode) :
    (first ++ more).modify place change = first.modify place change ++ more := by
  apply Array.ext_getElem?
  intro index
  by_cases before : index < first.size
  · have still : index < (first.modify place change).size := by simpa using before
    rw [Array.getElem?_modify, Array.getElem?_append_left before,
      Array.getElem?_append_left still, Array.getElem?_modify]
  · have other : place ≠ index := by omega
    have size : (first.modify place change).size = first.size := Array.size_modify
    rw [Array.getElem?_modify, if_neg other, Array.getElem?_append_right (by omega),
      Array.getElem?_append_right (by omega), size]

theorem modify_push_last (nodes : Array ShapeNode) (node : ShapeNode)
    (change : ShapeNode → ShapeNode) :
    (nodes.push node).modify nodes.size change = nodes.push (change node) := by
  apply Array.ext_getElem?
  intro index
  rw [Array.getElem?_modify, Array.getElem?_push, Array.getElem?_push]
  by_cases last : index = nodes.size
  · simp only [last, if_true, Option.map_some]
  · rw [if_neg last, if_neg last, if_neg (Ne.symm last)]

/-- What laying out a tree below a parent comes to: its nodes stand at the end in their final form,
its place is the last of its parent's children, and the rest of the stack goes on from there. -/
def LaysOut (source : List Char) (tree : SyntaxTree) : Prop :=
  ∀ (depth parent : Nat) (rest : List Pending) (nodes : Array ShapeNode), parent < nodes.size →
    layOut source (⟨tree, depth, some parent⟩ :: rest) nodes =
      layOut source rest (nodes.modify parent (ShapeNode.addChild nodes.size) ++
        ((ShapeTree.ofTree source tree).rows depth nodes.size).toArray)

/-- The induction is on the list of siblings: each one is laid out, with everything below it, before
the next one comes to the top of the stack. -/
theorem lay_out_siblings {source : List Char} {trees : List SyntaxTree}
    (laid : ∀ tree ∈ trees, LaysOut source tree) (depth parent : Nat) (rest : List Pending)
    (nodes : Array ShapeNode) (inside : parent < nodes.size) :
    layOut source (((trees.filter SyntaxTree.isKept).map fun tree => ⟨tree, depth, some parent⟩) ++
        rest) nodes =
      layOut source rest
        (nodes.modify parent
            (ShapeNode.addChildren
              (ShapeTree.places nodes.size (ShapeTree.ofTrees source trees))) ++
          (ShapeTree.rowsAmong depth nodes.size (ShapeTree.ofTrees source trees)).toArray) := by
  induction trees generalizing nodes with
  | nil =>
      simp [ShapeTree.ofTrees, ShapeTree.places, ShapeTree.rowsAmong, modify_add_nothing]
  | cons tree others ih =>
      have remaining := ih fun other member => laid other (by simp [member])
      cases keeps : tree.isKept with
      | false => simpa [keeps, ShapeTree.ofTrees] using remaining nodes inside
      | true =>
          have first := laid tree (by simp) depth parent
            (((others.filter SyntaxTree.isKept).map fun tree => ⟨tree, depth, some parent⟩) ++ rest)
            nodes inside
          have grown : (nodes.modify parent (ShapeNode.addChild nodes.size) ++
              ((ShapeTree.ofTree source tree).rows depth nodes.size).toArray).size =
                nodes.size + (ShapeTree.ofTree source tree).size := by
            simp [ShapeTree.rows_length]
          simp only [List.filter_cons, keeps, if_true, List.map_cons, List.cons_append, first]
          rw [remaining _ (by rw [grown]; omega), grown, modify_append_left (by simpa using inside),
            modify_add_more]
          simp [ShapeTree.ofTrees, keeps, ShapeTree.places, ShapeTree.rowsAmong]

theorem lay_out_below {source : List Char} (pending : Pending)
    (laid : ∀ child ∈ pending.tree.children, LaysOut source child) (rest : List Pending)
    (nodes : Array ShapeNode) :
    layOut source (pending.below nodes.size ++ rest) (nodes.push (pending.node source)) =
      layOut source rest
        (nodes ++
          ((ShapeTree.ofTree source pending.tree).rows pending.depth nodes.size).toArray) := by
  obtain ⟨⟨head, children⟩, depth, parent⟩ := pending
  have below := lay_out_siblings laid (depth + 1) nodes.size rest
    (nodes.push (Pending.node source ⟨.node head children, depth, parent⟩)) (by simp)
  rw [modify_push_last] at below
  simp only [Pending.below, SyntaxTree.kept, SyntaxTree.children] at below ⊢
  rw [below]
  congr 1
  apply Array.ext'
  simp [ShapeTree.ofTree, ShapeTree.rows, ShapeNode.addChildren, Pending.node, SyntaxTree.kept,
    SyntaxTree.children, SyntaxTree.head, ShapeTree.of_trees_eq_map]

theorem enter_below (nodes : Array ShapeNode) (node : ShapeNode) {parent : Nat}
    (inside : parent < nodes.size) :
    enter nodes (some parent) node =
      (nodes.modify parent (ShapeNode.addChild nodes.size)).push node := by
  simp only [enter, Array.push_eq_append]
  exact modify_append_left inside #[node] _

theorem lay_out_tree (source : List Char) (tree : SyntaxTree) : LaysOut source tree := by
  induction tree using SyntaxTree.tree_induction with
  | step head children ih =>
      intro depth parent rest nodes inside
      rw [layOut, enter_below _ _ inside]
      have below := lay_out_below ⟨.node head children, depth, some parent⟩ ih rest
        (nodes.modify parent (ShapeNode.addChild nodes.size))
      rw [Array.size_modify] at below
      exact below

theorem of_tree_eq_rows (source : List Char) (tree : SyntaxTree) :
    Shape.ofTree source tree = ⟨((ShapeTree.ofTree source tree).rows 1 0).toArray⟩ := by
  have below := lay_out_below ⟨tree, 1, none⟩
    (fun child _ => lay_out_tree source child) [] #[]
  rw [ofTree, layOut]
  simpa [layOut, enter] using below

end Shape
end Resemblance
