import Resemblance.Proofs.Comments

/-!
The outermost nodes of a kind. They are nodes of that kind, and in a tree whose nodes lie inside
their parents every other node of the kind lies inside one of them, so that both cover the same
offsets.
-/

namespace Resemblance.SyntaxTree

variable {wanted : Node → Bool}

theorem mem_outermost_among {found : Node} {trees : List SyntaxTree} :
    found ∈ outermostAmong wanted trees ↔ ∃ tree ∈ trees, found ∈ tree.outermost wanted := by
  induction trees with
  | nil => simp [outermostAmong]
  | cons tree rest ih => simp [outermostAmong, ih]

theorem mem_nodes_of_mem_outermost {tree : SyntaxTree} :
    ∀ found ∈ tree.outermost wanted, found ∈ tree.nodes ∧ wanted found = true := by
  induction tree using tree_induction with
  | step head children ih =>
      intro found member
      rw [outermost] at member
      split at member
      next own =>
        rw [List.mem_singleton] at member
        rw [member]
        exact ⟨List.mem_cons_self .., own⟩
      next other =>
        obtain ⟨child, listed, inside⟩ := mem_outermost_among.1 member
        obtain ⟨below, holds⟩ := ih child listed found inside
        exact ⟨List.mem_cons_of_mem _ (mem_nodes_among.2 ⟨child, listed, below⟩), holds⟩

/-- Every node of the tree lies inside each of the nodes above it. -/
def Contained (tree : SyntaxTree) : Prop :=
  ∀ below ∈ tree.subtrees, ∀ found ∈ below.nodes,
    below.head.start ≤ found.start ∧ found.stop ≤ below.head.stop

theorem Contained.of_child {head : Node} {children : List SyntaxTree}
    (contained : (node head children).Contained) : ∀ child ∈ children, child.Contained :=
  fun _ member below inside => contained below (mem_subtrees_of_child member inside)

theorem Ordered.contained {tree : SyntaxTree} (ordered : tree.Ordered) : tree.Contained := by
  induction tree using tree_induction with
  | step head children ih =>
      intro below inside found member
      rcases List.mem_cons.1 inside with rfl | deeper
      · have bounds := ordered.bounds found member
        exact ⟨bounds.1, bounds.2.2⟩
      · obtain ⟨child, listed, reached⟩ := mem_subtrees_among.1 deeper
        exact ih child listed (ordered.of_child child listed) below reached found member

theorem Contained.inside_outermost {tree : SyntaxTree} (contained : tree.Contained) :
    ∀ found ∈ tree.nodes, wanted found = true →
      ∃ outer ∈ tree.outermost wanted, outer.start ≤ found.start ∧ found.stop ≤ outer.stop := by
  induction tree using tree_induction with
  | step head children ih =>
      intro found member holds
      rw [outermost]
      split
      next own =>
        exact ⟨head, List.mem_singleton.2 rfl, contained _ (mem_subtrees_self _) found member⟩
      next other =>
        rcases List.mem_cons.1 member with rfl | below
        · exact absurd holds other
        · obtain ⟨child, listed, inside⟩ := mem_nodes_among.1 below
          obtain ⟨outer, found', around⟩ :=
            ih child listed (contained.of_child child listed) found inside holds
          exact ⟨outer, mem_outermost_among.2 ⟨child, listed, found'⟩, around⟩

/-- The outermost wanted nodes of a tree with contained nodes cover what all its wanted nodes
cover. -/
theorem Contained.covered_by_outermost_iff {tree : SyntaxTree} (contained : tree.Contained)
    (offset : Nat) :
    coveredBy (tree.outermost wanted) offset = true ↔
      ∃ node ∈ tree.nodes, wanted node = true ∧ node.covers offset = true := by
  rw [coveredBy, List.any_eq_true]
  constructor
  · rintro ⟨outer, member, covers⟩
    obtain ⟨below, holds⟩ := mem_nodes_of_mem_outermost outer member
    exact ⟨outer, below, holds, covers⟩
  · rintro ⟨node, member, holds, covers⟩
    obtain ⟨outer, listed, begins, ends⟩ := contained.inside_outermost node member holds
    refine ⟨outer, listed, ?_⟩
    rw [Node.covers_iff] at covers ⊢
    omega

end Resemblance.SyntaxTree
