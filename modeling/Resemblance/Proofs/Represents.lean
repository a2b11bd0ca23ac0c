import Resemblance.Proofs.Layout

/-!
What it means that the table of a shape represents a tree, said without the way the table is made:
the nodes are read off in preorder, following the children from the root finds the tree again, and
the places link up so that every node but the root has one parent before it.
-/

namespace Resemblance

namespace ShapeTree

mutual

/-- The tree stands in the table from a place on: its node is there, and its subtrees stand at the
places of that node's children. -/
def StandsAt (nodes : List ShapeNode) (place : Nat) : ShapeTree → Prop
  | node kind text children =>
      ∃ entry, nodes[place]? = some entry ∧ entry.kind = kind ∧ entry.text = text ∧
        StandAt nodes entry.children.toList children

def StandAt (nodes : List ShapeNode) : List Nat → List ShapeTree → Prop
  | places, [] => places = []
  | places, tree :: rest =>
      ∃ place others, places = place :: others ∧ StandsAt nodes place tree ∧
        StandAt nodes others rest

end

end ShapeTree

namespace Shape

/-- The children of a node stand behind it in increasing order, one level deeper. -/
structure Linked (nodes : List ShapeNode) (place : Nat) (node : ShapeNode) : Prop where
  increasing : node.children.toList.Pairwise (· < ·)
  behind : ∀ child ∈ node.children.toList, place < child
  deeper : ∀ child ∈ node.children.toList,
    ∃ below, nodes[child]? = some below ∧ below.depth = node.depth + 1

/-- The table of a shape represents a tree. -/
structure Represents (shape : Shape) (tree : ShapeTree) : Prop where
  preorder : shape.nodes.toList.map (fun node => (node.kind, node.text)) = tree.labels
  stands : tree.StandsAt shape.nodes.toList 0
  root_depth : (shape.nodes[0]?).map ShapeNode.depth = some 1
  /-- Every place but the first is in one list of children, and is there once. -/
  once : (shape.nodes.toList.flatMap fun node => node.children.toList).Perm
    (List.range' 1 (shape.size - 1))
  linked : ∀ place node, shape.nodes[place]? = some node → Linked shape.nodes.toList place node

section Segment

variable {α : Type} {table : List α} {start : Nat}

def Segment (table : List α) (start : Nat) (run : List α) : Prop :=
  ∃ before after, table = before ++ (run ++ after) ∧ before.length = start

theorem Segment.whole (table : List α) : Segment table 0 table :=
  ⟨[], [], by simp, rfl⟩

theorem Segment.head {entry : α} {rest : List α} (segment : Segment table start (entry :: rest)) :
    table[start]? = some entry := by
  obtain ⟨before, after, rfl, rfl⟩ := segment
  simp

theorem Segment.tail {entry : α} {rest : List α} (segment : Segment table start (entry :: rest)) :
    Segment table (start + 1) rest := by
  obtain ⟨before, after, rfl, rfl⟩ := segment
  exact ⟨before ++ [entry], after, by simp, by simp⟩

theorem Segment.left {first second : List α} (segment : Segment table start (first ++ second)) :
    Segment table start first := by
  obtain ⟨before, after, rfl, rfl⟩ := segment
  exact ⟨before, second ++ after, by simp, rfl⟩

theorem Segment.right {first second : List α} (segment : Segment table start (first ++ second)) :
    Segment table (start + first.length) second := by
  obtain ⟨before, after, rfl, rfl⟩ := segment
  exact ⟨before ++ first, after, by simp, by simp⟩

end Segment

end Shape

namespace ShapeTree

theorem rows_among_labels {trees : List ShapeTree} (depth start : Nat)
    (labelled : ∀ tree ∈ trees, ∀ depth start,
      (tree.rows depth start).map (fun node => (node.kind, node.text)) = tree.labels) :
    (rowsAmong depth start trees).map (fun node => (node.kind, node.text)) = labelsAmong trees := by
  induction trees generalizing start with
  | nil => rfl
  | cons tree rest ih =>
      simp only [rowsAmong, labelsAmong, List.map_append, labelled tree (by simp),
        ih _ (fun other member => labelled other (by simp [member]))]

theorem rows_labels (tree : ShapeTree) (depth start : Nat) :
    (tree.rows depth start).map (fun node => (node.kind, node.text)) = tree.labels := by
  induction tree using tree_induction generalizing depth start with
  | step kind text children ih =>
      simp only [rows, labels, List.map_cons, rows_among_labels _ _ ih]

theorem rows_among_stand {nodes : List ShapeNode} {depth start : Nat} {trees : List ShapeTree}
    (segment : Shape.Segment nodes start (rowsAmong depth start trees))
    (stand : ∀ tree ∈ trees, ∀ depth start, Shape.Segment nodes start (tree.rows depth start) →
      tree.StandsAt nodes start) :
    StandAt nodes (places start trees) trees := by
  induction trees generalizing start with
  | nil => rfl
  | cons tree rest ih =>
      simp only [rowsAmong] at segment
      have later := segment.right
      rw [rows_length] at later
      exact ⟨start, places (start + tree.size) rest, rfl,
        stand tree (by simp) depth start segment.left,
        ih later fun other member => stand other (by simp [member])⟩

theorem rows_stand {nodes : List ShapeNode} {depth start : Nat} {tree : ShapeTree}
    (segment : Shape.Segment nodes start (tree.rows depth start)) :
    tree.StandsAt nodes start := by
  induction tree using tree_induction generalizing depth start with
  | step kind text children ih =>
      simp only [rows] at segment
      refine ⟨_, segment.head, rfl, rfl, ?_⟩
      exact rows_among_stand segment.tail fun child member _ _ run => ih child member run

theorem rows_among_once {trees : List ShapeTree} (depth start : Nat)
    (once : ∀ tree ∈ trees, ∀ depth start,
      ((tree.rows depth start).flatMap fun node => node.children.toList).Perm
        (List.range' (start + 1) (tree.size - 1))) :
    (places start trees ++
        (rowsAmong depth start trees).flatMap fun node => node.children.toList).Perm
      (List.range' start (sizes trees)) := by
  induction trees generalizing start with
  | nil => exact List.Perm.refl _
  | cons tree rest ih =>
      have first := once tree (by simp) depth start
      have others := ih (start + tree.size) fun other member => once other (by simp [member])
      have grown : start + tree.size = start + 1 + (tree.size - 1) := by
        have := tree.size_pos
        omega
      have split : List.range' start (sizes (tree :: rest)) =
          start :: (List.range' (start + 1) (tree.size - 1) ++
            List.range' (start + tree.size) (sizes rest)) := by
        rw [grown, List.range'_append_1, ← List.range'_succ, sizes]
        congr 1
        have := tree.size_pos
        omega
      rw [split]
      simp only [places, rowsAmong, List.flatMap_append, List.cons_append]
      refine List.Perm.cons start ?_
      rw [← List.append_assoc]
      refine List.Perm.trans (List.Perm.append_right _ List.perm_append_comm) ?_
      rw [List.append_assoc]
      exact List.Perm.append first others

theorem rows_once (tree : ShapeTree) (depth start : Nat) :
    ((tree.rows depth start).flatMap fun node => node.children.toList).Perm
      (List.range' (start + 1) (tree.size - 1)) := by
  induction tree using tree_induction generalizing depth start with
  | step kind text children ih =>
      have below := rows_among_once (depth + 1) (start + 1) ih
      simpa [rows, size] using below

theorem le_of_mem_places {start child : Nat} {trees : List ShapeTree}
    (member : child ∈ places start trees) : start ≤ child := by
  induction trees generalizing start with
  | nil => exact absurd member List.not_mem_nil
  | cons tree rest ih =>
      rcases List.mem_cons.1 member with rfl | later
      · exact Nat.le_refl _
      · exact Nat.le_trans (Nat.le_add_right _ _) (ih later)

theorem places_increasing (start : Nat) (trees : List ShapeTree) :
    (places start trees).Pairwise (· < ·) := by
  induction trees generalizing start with
  | nil => exact List.Pairwise.nil
  | cons tree rest ih =>
      refine List.pairwise_cons.2 ⟨?_, ih _⟩
      intro later member
      have bounded := le_of_mem_places member
      have := tree.size_pos
      omega

theorem places_depth {nodes : List ShapeNode} {depth start : Nat} {trees : List ShapeTree}
    (segment : Shape.Segment nodes start (rowsAmong depth start trees)) :
    ∀ child ∈ places start trees, ∃ below, nodes[child]? = some below ∧ below.depth = depth := by
  induction trees generalizing start with
  | nil => exact fun _ member => absurd member List.not_mem_nil
  | cons tree rest ih =>
      simp only [rowsAmong] at segment
      have later := segment.right
      rw [rows_length] at later
      intro child member
      rcases List.mem_cons.1 member with rfl | other
      · cases tree with
        | node kind text children => exact ⟨_, segment.left.head, rfl⟩
      · exact ih later child other

theorem rows_among_linked {nodes : List ShapeNode} {depth start : Nat} {trees : List ShapeTree}
    (segment : Shape.Segment nodes start (rowsAmong depth start trees))
    (linked : ∀ tree ∈ trees, ∀ depth start, Shape.Segment nodes start (tree.rows depth start) →
      ∀ entry ∈ (tree.rows depth start).zipIdx start, Shape.Linked nodes entry.2 entry.1) :
    ∀ entry ∈ (rowsAmong depth start trees).zipIdx start, Shape.Linked nodes entry.2 entry.1 := by
  induction trees generalizing start with
  | nil => exact fun _ member => absurd member List.not_mem_nil
  | cons tree rest ih =>
      simp only [rowsAmong] at segment
      have later := segment.right
      rw [rows_length] at later
      intro entry member
      rw [rowsAmong, List.zipIdx_append, rows_length] at member
      rcases List.mem_append.1 member with here | other
      · exact linked tree (by simp) depth start segment.left entry here
      · exact ih later (fun tree listed => linked tree (by simp [listed])) entry other

theorem rows_linked {nodes : List ShapeNode} {depth start : Nat} {tree : ShapeTree}
    (segment : Shape.Segment nodes start (tree.rows depth start)) :
    ∀ entry ∈ (tree.rows depth start).zipIdx start, Shape.Linked nodes entry.2 entry.1 := by
  induction tree using tree_induction generalizing depth start with
  | step kind text children ih =>
      simp only [rows] at segment
      intro entry member
      rw [rows, List.zipIdx_cons] at member
      rcases List.mem_cons.1 member with rfl | below
      · exact ⟨places_increasing _ _, fun child listed => le_of_mem_places listed,
          places_depth segment.tail⟩
      · exact rows_among_linked segment.tail (fun child listed _ _ run => ih child listed run)
          entry below

end ShapeTree

namespace Shape

theorem of_tree_represents (source : List Char) (tree : SyntaxTree) :
    (Shape.ofTree source tree).Represents (ShapeTree.ofTree source tree) := by
  rw [of_tree_eq_rows]
  generalize ShapeTree.ofTree source tree = reduced
  have segment := Segment.whole (reduced.rows 1 0)
  refine ⟨reduced.rows_labels 1 0, ShapeTree.rows_stand segment, ?_, ?_, ?_⟩
  · cases reduced with
    | node kind text children => rfl
  · have once := reduced.rows_once 1 0
    simpa [size, ShapeTree.rows_length] using once
  · intro place node found
    have member : (node, place) ∈ (reduced.rows 1 0).zipIdx 0 := by
      rw [List.mem_zipIdx_iff_getElem?]
      simpa using found
    exact ShapeTree.rows_linked segment (node, place) member

end Shape
end Resemblance
