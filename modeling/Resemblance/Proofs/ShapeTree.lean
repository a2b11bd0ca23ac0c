import Resemblance.ShapeTree
import Resemblance.SyntaxTree

/-!
The tree that the shape of a source stands for, and its measures, each by recursion on the tree.
-/

namespace Resemblance.ShapeTree

theorem tree_induction {holds : ShapeTree → Prop}
    (step : ∀ kind text children, (∀ child ∈ children, holds child) →
      holds (node kind text children)) : ∀ tree, holds tree
  | node kind text children =>
      step kind text children fun child _ => tree_induction step child

mutual

/-- A parse tree reduced to its root and, below every node that is kept, to its named children that
are no comments. -/
def ofTree (source : List Char) : SyntaxTree → ShapeTree
  | .node head children =>
      node head.kind
        (if (ofTrees source children).isEmpty then some (head.textIn source) else none)
        (ofTrees source children)

def ofTrees (source : List Char) : List SyntaxTree → List ShapeTree
  | [] => []
  | tree :: rest =>
      if tree.isKept then ofTree source tree :: ofTrees source rest else ofTrees source rest

end

mutual

def size : ShapeTree → Nat
  | node _ _ children => 1 + sizes children

def sizes : List ShapeTree → Nat
  | [] => 0
  | tree :: rest => size tree + sizes rest

end

mutual

def height : ShapeTree → Nat
  | node _ _ children => 1 + heights children

def heights : List ShapeTree → Nat
  | [] => 0
  | tree :: rest => max (height tree) (heights rest)

end

mutual

def labels : ShapeTree → List (String × Option String)
  | node kind text children => (kind, text) :: labelsAmong children

def labelsAmong : List ShapeTree → List (String × Option String)
  | [] => []
  | tree :: rest => labels tree ++ labelsAmong rest

end

def kinds (tree : ShapeTree) : List String :=
  tree.labels.map Prod.fst

mutual

def subtrees : ShapeTree → List ShapeTree
  | node kind text children => node kind text children :: subtreesAmong children

def subtreesAmong : List ShapeTree → List ShapeTree
  | [] => []
  | tree :: rest => subtrees tree ++ subtreesAmong rest

end

mutual

/-- What `combine` makes of a tree from its root and from what it makes of the subtrees. -/
def fold {β : Type} (combine : String → Option String → List β → β) : ShapeTree → β
  | node kind text children => combine kind text (folds combine children)

def folds {β : Type} (combine : String → Option String → List β → β) : List ShapeTree → List β
  | [] => []
  | tree :: rest => fold combine tree :: folds combine rest

end

theorem of_trees_eq_map (source : List Char) (trees : List SyntaxTree) :
    ofTrees source trees = (trees.filter SyntaxTree.isKept).map (ofTree source) := by
  induction trees with
  | nil => rfl
  | cons tree rest ih =>
      cases keeps : tree.isKept <;> simp [ofTrees, keeps, ih]

theorem folds_eq_map {β : Type} (combine : String → Option String → List β → β)
    (trees : List ShapeTree) : folds combine trees = trees.map (fold combine) := by
  induction trees with
  | nil => rfl
  | cons tree rest ih => simp only [folds, ih, List.map_cons]

theorem size_pos (tree : ShapeTree) : 0 < tree.size := by
  cases tree
  simp only [size]
  omega

theorem heights_le_sizes {trees : List ShapeTree}
    (bounded : ∀ tree ∈ trees, tree.height ≤ tree.size) : heights trees ≤ sizes trees := by
  induction trees with
  | nil => exact Nat.le_refl _
  | cons tree rest ih =>
      have first := bounded tree (by simp)
      have others := ih (fun other member => bounded other (by simp [member]))
      simp only [heights, sizes]
      omega

theorem height_le_size (tree : ShapeTree) : tree.height ≤ tree.size := by
  induction tree using tree_induction with
  | step kind text children ih =>
      have below := heights_le_sizes ih
      simp only [height, size]
      omega

theorem labels_among_length {trees : List ShapeTree}
    (counted : ∀ tree ∈ trees, tree.labels.length = tree.size) :
    (labelsAmong trees).length = sizes trees := by
  induction trees with
  | nil => rfl
  | cons tree rest ih =>
      simp only [labelsAmong, sizes, List.length_append, counted tree (by simp),
        ih (fun other member => counted other (by simp [member]))]

theorem labels_length (tree : ShapeTree) : tree.labels.length = tree.size := by
  induction tree using tree_induction with
  | step kind text children ih =>
      simp only [labels, size, List.length_cons, labels_among_length ih]
      omega

theorem compare_text_eq_iff (text text' : Option String) :
    compareText text text' = .eq ↔ text = text' := by
  cases text with
  | none =>
      cases text' with
      | none => simp [compareText]
      | some other => simp [compareText]
  | some own =>
      cases text' with
      | none => simp [compareText]
      | some other => simp [compareText]

theorem compare_all_eq_iff {trees others : List ShapeTree}
    (exact_order : ∀ tree ∈ trees, ∀ other, compare tree other = .eq ↔ tree = other) :
    compareAll trees others = .eq ↔ trees = others := by
  induction trees generalizing others with
  | nil =>
      cases others with
      | nil => simp [compareAll]
      | cons other more => simp [compareAll]
  | cons tree rest ih =>
      cases others with
      | nil => simp [compareAll]
      | cons other more =>
          rw [compareAll, Ordering.then_eq_eq, exact_order tree (by simp) other,
            ih fun later member => exact_order later (by simp [member]), List.cons.injEq]

theorem compare_eq_iff (tree other : ShapeTree) : compare tree other = .eq ↔ tree = other := by
  induction tree using tree_induction generalizing other with
  | step kind text children ih =>
      cases other with
      | node kind' text' children' =>
          rw [compare, Ordering.then_eq_eq, Ordering.then_eq_eq, compare_text_eq_iff,
            compare_all_eq_iff ih, node.injEq, Std.LawfulEqCmp.compare_eq_iff_eq]

instance : LawfulBEq ShapeTree where
  rfl {tree} := by
    have same := (compare_eq_iff tree tree).2 rfl
    exact beq_iff_eq (a := compare tree tree).2 same
  eq_of_beq {tree other} same :=
    (compare_eq_iff tree other).1 (beq_iff_eq (a := compare tree other).1 same)

end Resemblance.ShapeTree
