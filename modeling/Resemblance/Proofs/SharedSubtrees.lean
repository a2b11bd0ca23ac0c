import Mathlib.Data.List.Perm.Subperm
import Resemblance.Proofs.Quotient
import Resemblance.Proofs.Rearranged
import Resemblance.ShapeScores

/-!
What the overlap of subtrees says about two shapes. Their digests are those of the subtrees with
siblings in the order of their digests, so that a full overlap means two trees that are equal up to
the order of siblings.
-/

namespace Resemblance

namespace ShapeTree

variable {H : Type}

/-- The digest of a tree whose siblings are in order already. -/
def plainDigest (hasher : Hasher H) (tree : ShapeTree) : H :=
  fold hasher.ofNode tree

def inDigestOrder (hasher : Hasher H) (trees : List ShapeTree) : List ShapeTree :=
  trees.mergeSort fun a b => hasher.le (a.plainDigest hasher) (b.plainDigest hasher)

/-- A tree with all siblings in the order of their digests, at every depth. -/
def canonical (hasher : Hasher H) (tree : ShapeTree) : ShapeTree :=
  fold (fun kind text children => node kind text (inDigestOrder hasher children)) tree

theorem canonical_node (hasher : Hasher H) (kind : String) (text : Option String)
    (children : List ShapeTree) :
    (node kind text children).canonical hasher =
      node kind text (inDigestOrder hasher (children.map (canonical hasher))) := by
  rw [canonical, fold, folds_eq_map]
  rfl

theorem in_digest_order_perm (hasher : Hasher H) (trees : List ShapeTree) :
    (inDigestOrder hasher trees).Perm trees :=
  List.mergeSort_perm _ _

theorem in_digest_order_digests (hasher : Hasher H) (trees : List ShapeTree) :
    (inDigestOrder hasher trees).map (plainDigest hasher) =
      (trees.map (plainDigest hasher)).mergeSort hasher.le :=
  List.map_mergeSort fun _ _ _ _ => rfl

theorem plain_digest_canonical (hasher : Hasher H) (tree : ShapeTree) :
    (tree.canonical hasher).plainDigest hasher = tree.digest hasher := by
  induction tree using tree_induction with
  | step kind text children ih =>
      have below : (children.map (canonical hasher)).map (plainDigest hasher) =
          children.map (digest hasher) := by
        rw [List.map_map]
        exact List.map_congr_left ih
      rw [canonical_node, plainDigest, fold, folds_eq_map]
      show hasher.ofNode kind text ((inDigestOrder hasher _).map (plainDigest hasher)) = _
      rw [in_digest_order_digests, below, digest, fold, folds_eq_map]
      rfl

theorem same_canonical (hasher : Hasher H) (tree : ShapeTree) :
    SameUpToOrder tree (tree.canonical hasher) := by
  induction tree using tree_induction with
  | step kind text children ih =>
      have pairs : List.Forall₂ SameUpToOrder children (children.map (canonical hasher)) :=
        List.forall₂_map_right_iff.2 (List.forall₂_same.2 ih)
      have below := Rearranged.trans (.of_pairs pairs)
        (.of_perm (in_digest_order_perm hasher _).symm)
      rw [canonical_node]
      exact .cons below .nil

end ShapeTree

theorem Ratio.to_float_eq_one_iff {ratio : Ratio} (small : SmallCount ratio.whole)
    (bounded : ratio.part ≤ ratio.whole) : ratio.toFloat = 1.0 ↔ ratio.Full := by
  have positive := small.pos
  rw [toFloat, if_neg (Nat.ne_of_gt positive), quotient_eq_one_iff small bounded]
  exact ⟨fun equal => ⟨equal, positive⟩, fun full => full.1⟩

namespace Overlap

variable {α : Type} [BEq α] [LawfulBEq α] {a b : List α}

theorem ratio_counts (once : a.Nodup) (once' : b.Nodup) (bounded : a.length + b.length < 2 ^ 53) :
    SmallCount (ratio a b).whole ∧ (ratio a b).part ≤ (ratio a b).whole := by
  have left := shared_le_left a b
  have right := shared_le_left b a
  rw [shared_comm once' once] at right
  rw [ratio_eq]
  split
  next empty => exact ⟨⟨Nat.one_pos, by decide⟩, Nat.le_refl _⟩
  next filled =>
    have counted : 0 < a.length + b.length := by
      apply Nat.pos_of_ne_zero
      intro none_left
      apply filled
      rw [List.length_eq_zero_iff.1 (show a.length = 0 by omega),
        List.length_eq_zero_iff.1 (show b.length = 0 by omega)]
      rfl
    show SmallCount (a.length + b.length - shared a b) ∧
      shared a b ≤ a.length + b.length - shared a b
    exact ⟨⟨by omega, by omega⟩, by omega⟩

end Overlap

namespace Shape

variable {H : Type} [BEq H] [LawfulBEq H]

/-- What the digests of a shape are: those of the subtrees of a tree, with siblings in order. They
are computed from the last node to the first, and read no cell before it is filled: what the cells
hold at first makes no difference. -/
structure HasDigestsOf (hasher : Hasher H) (shape : Shape) (tree : ShapeTree) : Prop where
  later : ∀ (place : Nat) (entry : ShapeNode), shape.nodes[place]? = some entry →
    ∀ child ∈ entry.children.toList, place < child ∧ child < shape.size
  filled : ∀ cells : Array (Option H), cells.size = shape.size →
    (fill hasher.combine shape.nodes shape.size cells).toList =
      tree.subtrees.map fun below => some ((below.canonical hasher).plainDigest hasher)
  members : ∀ found, found ∈ shape.digests hasher ↔
    ∃ below ∈ tree.subtrees, (below.canonical hasher).plainDigest hasher = found

theorem of_tree_has_digests (hasher : Hasher H) (source : List Char) (tree : SyntaxTree) :
    HasDigestsOf hasher (ofTree source tree) (ShapeTree.ofTree source tree) where
  later := by
    intro place entry found child member
    have linked := (of_tree_represents source tree).linked place entry found
    obtain ⟨below, there, -⟩ := linked.deeper child member
    refine ⟨linked.behind child member, ?_⟩
    exact (List.getElem?_eq_some_iff.1 there).1
  filled := by
    intro cells size
    rw [fill_eq_folds hasher.combine source tree size]
    apply List.map_congr_left
    intro below _
    rw [ShapeTree.plain_digest_canonical, ShapeTree.digest]
  members := by
    intro found
    simp only [mem_digests_of_tree, List.mem_map, ShapeTree.plain_digest_canonical]

theorem digests_length_le (hasher : Hasher H) (source : List Char) (tree : SyntaxTree) :
    ((ofTree source tree).digests hasher).length ≤ (ofTree source tree).size := by
  have once : ((ofTree source tree).digests hasher).Nodup := nodup_erase_dups _
  have listed : (ofTree source tree).digests hasher ⊆
      (ShapeTree.ofTree source tree).subtrees.map (ShapeTree.digest hasher) :=
    fun found member => (mem_digests_of_tree hasher source tree found).1 member
  have bounded := (List.subperm_of_subset once listed).length_le
  rwa [List.length_map, ShapeTree.subtrees_length, ← of_tree_size] at bounded

end Shape

open ShapeTree

variable {H : Type} [BEq H] [LawfulBEq H]

/-- The subtrees of two shapes overlap fully exactly where their trees are equal up to the order of
siblings at any depth, if digests are in a total order and those of the subtrees do not collide. The
overlap is then the double one, as long as the nodes can be counted in doubles at all. -/
theorem full_overlap_iff_same_up_to_order {hasher : Hasher H} (orders : hasher.Orders)
    {source source' : List Char} {tree tree' : SyntaxTree}
    (separates : hasher.Separates
      (subtreesOfBoth (ShapeTree.ofTree source tree) (ShapeTree.ofTree source' tree')))
    (limit limit' : Nat) (diff : EditTree H → EditTree H → Nat) :
    let shape := Shape.ofTree source tree
    let shape' := Shape.ofTree source' tree'
    let reduced := ShapeTree.ofTree source tree
    let reduced' := ShapeTree.ofTree source' tree'
    let profile := ShapeProfile.ofShapeWith hasher limit shape
    let profile' := ShapeProfile.ofShapeWith hasher limit' shape'
    shape.HasDigestsOf hasher reduced ∧ shape'.HasDigestsOf hasher reduced' ∧
      ((Overlap.ratio profile.subtrees profile'.subtrees).Full ↔ SameUpToOrder reduced reduced') ∧
      (shape.size + shape'.size < 2 ^ 53 →
        ((ShapeScores.compareWith diff profile profile').subtreeOverlap = 1.0 ↔
          SameUpToOrder reduced reduced')) := by
  intro shape shape' reduced reduced' profile profile'
  have once : profile.subtrees.Nodup := nodup_erase_dups _
  have once' : profile'.subtrees.Nodup := nodup_erase_dups _
  have full : (Overlap.ratio profile.subtrees profile'.subtrees).Full ↔
      SameUpToOrder reduced reduced' := by
    rw [Overlap.ratio_full_iff once once', ← separates.shared_iff orders]
    simp only [← mem_digests_of_tree]
    rfl
  refine ⟨Shape.of_tree_has_digests _ _ _, Shape.of_tree_has_digests _ _ _, full, ?_⟩
  intro counted
  have few := Shape.digests_length_le hasher source tree
  have few' := Shape.digests_length_le hasher source' tree'
  have bounded : profile.subtrees.length + profile'.subtrees.length < 2 ^ 53 :=
    Nat.lt_of_le_of_lt (Nat.add_le_add few few') counted
  obtain ⟨small, part⟩ := Overlap.ratio_counts once once' bounded
  exact (Ratio.to_float_eq_one_iff small part).trans full

/-- Two names side by side, and the same in the other order. -/
theorem swapped_names_overlap_fully :
    let names := SyntaxTree.node (soundNode "module" 0 3)
      [.node (soundNode "identifier" 0 1) [], .node (soundNode "identifier" 2 3) []]
    let shape := Shape.ofTree ['x', ' ', 'y'] names
    let shape' := Shape.ofTree ['y', ' ', 'x'] names
    hasher.Orders ∧
      hasher.Separates (subtreesOfBoth (ShapeTree.ofTree ['x', ' ', 'y'] names)
        (ShapeTree.ofTree ['y', ' ', 'x'] names)) ∧
      shape ≠ shape' ∧ shape.size + shape'.size < 2 ^ 53 ∧
      (ShapeScores.compare (.ofShape 0 shape) (.ofShape 0 shape')).subtreeOverlap = 1.0 := by
  intro names shape shape'
  have separates := hasher_separates (subtreesOfBoth (ShapeTree.ofTree ['x', ' ', 'y'] names)
    (ShapeTree.ofTree ['y', ' ', 'x'] names))
  have swapped : SameUpToOrder (ShapeTree.ofTree ['x', ' ', 'y'] names)
      (ShapeTree.ofTree ['y', ' ', 'x'] names) := .cons (.swap _ _ _) .nil
  have counted : shape.size + shape'.size < 2 ^ 53 := by
    simp only [shape, shape', Shape.of_tree_size]
    decide
  have different : shape ≠ shape' := by
    simp only [shape, shape', Shape.of_tree_eq_rows]
    decide
  obtain ⟨-, -, -, overlap⟩ :=
    full_overlap_iff_same_up_to_order hasher_orders separates 0 0 Edit.distance
  exact ⟨hasher_orders, separates, different, counted, (overlap counted).2 swapped⟩

end Resemblance
