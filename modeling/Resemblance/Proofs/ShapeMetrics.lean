import Resemblance.Proofs.Histogram
import Resemblance.Proofs.Represents
import Resemblance.ShapeScores

/-!
The measurements of a shape are those of the tree it represents: its size, its height, and how often
each kind occurs in it.
-/

namespace Resemblance

structure ShapeMetrics.Measures (metrics : ShapeMetrics) (tree : ShapeTree) : Prop where
  size : metrics.nodeCount = tree.size
  height : metrics.maxDepth = tree.height
  histogram : metrics.histogram.CountsOf tree.kinds
  keys : ∀ kind, kind ∈ metrics.histogram.keys ↔ kind ∈ tree.kinds
  kind_count : metrics.kindCount = tree.kinds.dedup.length
  total : sumOf metrics.histogram.values = metrics.nodeCount
  shallow : metrics.maxDepth ≤ metrics.nodeCount

namespace ShapeTree

theorem rows_among_max_depth {trees : List ShapeTree} (depth start bound : Nat)
    (reached : depth ≤ bound + 1)
    (deepest : ∀ tree ∈ trees, ∀ depth start bound,
      (tree.rows depth start).foldl (fun deep node => max deep node.depth) bound =
        max bound (depth + tree.height - 1)) :
    (rowsAmong depth start trees).foldl (fun deep node => max deep node.depth) bound =
      max bound (depth + heights trees - 1) := by
  induction trees generalizing start bound with
  | nil =>
      have bounded : depth + heights [] - 1 ≤ bound := by
        simp only [heights]
        omega
      exact (Nat.max_eq_left bounded).symm
  | cons tree rest ih =>
      have first := deepest tree (by simp) depth start bound
      have others := ih (start + tree.size) (max bound (depth + tree.height - 1)) (by omega)
        fun other member => deepest other (by simp [member])
      rw [rowsAmong, List.foldl_append, first, others, heights]
      omega

theorem rows_max_depth (tree : ShapeTree) (depth start bound : Nat) :
    (tree.rows depth start).foldl (fun deep node => max deep node.depth) bound =
      max bound (depth + tree.height - 1) := by
  induction tree using tree_induction generalizing depth start bound with
  | step kind text children ih =>
      have below := rows_among_max_depth (depth + 1) (start + 1) (max bound depth) (by omega) ih
      rw [rows, List.foldl_cons, below, height]
      omega

theorem kinds_length (tree : ShapeTree) : tree.kinds.length = tree.size := by
  rw [kinds, List.length_map, labels_length]

end ShapeTree

theorem ShapeMetrics.of_shape_counts (shape : Shape) :
    (ShapeMetrics.ofShape shape).histogram.CountsOf (shape.nodes.toList.map ShapeNode.kind) := by
  have counted := Histogram.counts_of_empty.add_all (shape.nodes.toList.map ShapeNode.kind)
  rw [List.foldl_map, List.nil_append, Array.foldl_toList] at counted
  exact counted

theorem Shape.Represents.kinds_eq {shape : Shape} {tree : ShapeTree}
    (represents : shape.Represents tree) :
    shape.nodes.toList.map ShapeNode.kind = tree.kinds := by
  rw [ShapeTree.kinds, ← represents.preorder, List.map_map]
  rfl

namespace ShapeMetrics

variable (source : List Char) (tree : SyntaxTree)

theorem of_tree_counts :
    (ofShape (Shape.ofTree source tree)).histogram.CountsOf
      (ShapeTree.ofTree source tree).kinds := by
  have counts := of_shape_counts (Shape.ofTree source tree)
  rwa [(Shape.of_tree_represents source tree).kinds_eq] at counts

theorem of_tree_node_count :
    (ofShape (Shape.ofTree source tree)).nodeCount = (ShapeTree.ofTree source tree).size := by
  simp [ofShape, Shape.size, Shape.of_tree_eq_rows, ShapeTree.rows_length]

theorem of_tree_max_depth :
    (ofShape (Shape.ofTree source tree)).maxDepth = (ShapeTree.ofTree source tree).height := by
  have deepest := (ShapeTree.ofTree source tree).rows_max_depth 1 0 0
  simp only [ofShape, Shape.of_tree_eq_rows, List.foldl_toArray']
  rw [deepest]
  omega

end ShapeMetrics

/-- For every parse tree, laying out its shape yields a table that represents the reduced tree, and
the measurements taken from the table are those of that tree. -/
theorem shape_represents_and_measures_tree (source : List Char) (tree : SyntaxTree) :
    (Shape.ofTree source tree).Represents (ShapeTree.ofTree source tree) ∧
      (ShapeMetrics.ofShape (Shape.ofTree source tree)).Measures
        (ShapeTree.ofTree source tree) := by
  have counts := ShapeMetrics.of_tree_counts source tree
  have size := ShapeMetrics.of_tree_node_count source tree
  have height := ShapeMetrics.of_tree_max_depth source tree
  refine ⟨Shape.of_tree_represents source tree, size, height, counts, counts.mem_keys,
    counts.length_eq, ?_, ?_⟩
  · rw [counts.total, size, ShapeTree.kinds_length]
  · rw [size, height]
    exact (ShapeTree.ofTree source tree).height_le_size

end Resemblance
