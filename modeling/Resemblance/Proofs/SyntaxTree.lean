import Resemblance.SyntaxTree

/-!
Parse trees read from the root down, each node before those below it, and what a parser promises of
its trees: a node is tainted exactly when there is a fault at it or below it, and siblings stand one
after the other inside their parent. The nodes of such a tree begin in the order in which they are
read.
-/

namespace Resemblance.SyntaxTree

theorem tree_induction {holds : SyntaxTree → Prop}
    (step : ∀ head children, (∀ child ∈ children, holds child) → holds (node head children)) :
    ∀ tree, holds tree
  | node head children =>
      step head children fun child _ => tree_induction step child

mutual

def nodes : SyntaxTree → List Node
  | node head children => head :: nodesAmong children

def nodesAmong : List SyntaxTree → List Node
  | [] => []
  | tree :: rest => nodes tree ++ nodesAmong rest

end

mutual

def subtrees : SyntaxTree → List SyntaxTree
  | node head children => node head children :: subtreesAmong children

def subtreesAmong : List SyntaxTree → List SyntaxTree
  | [] => []
  | tree :: rest => subtrees tree ++ subtreesAmong rest

end

theorem nodes_among_append (trees others : List SyntaxTree) :
    nodesAmong (trees ++ others) = nodesAmong trees ++ nodesAmong others := by
  induction trees with
  | nil => rfl
  | cons tree rest ih => simp only [List.cons_append, nodesAmong, ih, List.append_assoc]

theorem mem_nodes_among {found : Node} {trees : List SyntaxTree} :
    found ∈ nodesAmong trees ↔ ∃ tree ∈ trees, found ∈ tree.nodes := by
  induction trees with
  | nil => simp [nodesAmong]
  | cons tree rest ih => simp [nodesAmong, ih]

theorem mem_subtrees_among {below : SyntaxTree} {trees : List SyntaxTree} :
    below ∈ subtreesAmong trees ↔ ∃ tree ∈ trees, below ∈ tree.subtrees := by
  induction trees with
  | nil => simp [subtreesAmong]
  | cons tree rest ih => simp [subtreesAmong, ih]

theorem mem_subtrees_self (tree : SyntaxTree) : tree ∈ tree.subtrees := by
  cases tree
  simp [subtrees]

theorem mem_subtrees_of_child {head : Node} {children : List SyntaxTree} {child below : SyntaxTree}
    (member : child ∈ children) (inside : below ∈ child.subtrees) :
    below ∈ (node head children).subtrees := by
  simp only [subtrees, List.mem_cons]
  exact Or.inr (mem_subtrees_among.2 ⟨child, member, inside⟩)

/-- The trees stand one after the other between two offsets. -/
def Within (start stop : Nat) : List SyntaxTree → Prop
  | [] => start ≤ stop
  | tree :: rest =>
      start ≤ tree.head.start ∧ tree.head.start ≤ tree.head.stop ∧ Within tree.head.stop stop rest

instance decidableWithin (start stop : Nat) : (trees : List SyntaxTree) →
    Decidable (Within start stop trees)
  | [] => inferInstanceAs (Decidable (start ≤ stop))
  | tree :: rest =>
      have := decidableWithin tree.head.stop stop rest
      inferInstanceAs (Decidable (_ ∧ _ ∧ Within tree.head.stop stop rest))

/-- Taint marks the faults and the nodes above them, and no others. -/
def Marked (tree : SyntaxTree) : Prop :=
  ∀ below ∈ tree.subtrees,
    below.head.tainted = true ↔ ∃ found ∈ below.nodes, found.isFault = true

/-- Siblings stand one after the other inside their parent. -/
def Ordered (tree : SyntaxTree) : Prop :=
  ∀ below ∈ tree.subtrees, Within below.head.start below.head.stop below.children

/-- What a parser promises of its trees. -/
structure WellFormed (tree : SyntaxTree) : Prop where
  marked : tree.Marked
  ordered : tree.Ordered

instance (tree : SyntaxTree) : Decidable tree.Marked :=
  inferInstanceAs (Decidable (∀ below ∈ tree.subtrees, _))

instance (tree : SyntaxTree) : Decidable tree.Ordered :=
  inferInstanceAs (Decidable (∀ below ∈ tree.subtrees, _))

instance (tree : SyntaxTree) : Decidable tree.WellFormed :=
  decidable_of_iff (tree.Marked ∧ tree.Ordered)
    ⟨fun both => ⟨both.1, both.2⟩, fun formed => ⟨formed.marked, formed.ordered⟩⟩

theorem Marked.of_child {head : Node} {children : List SyntaxTree}
    (marked : (node head children).Marked) : ∀ child ∈ children, child.Marked :=
  fun _ member below inside => marked below (mem_subtrees_of_child member inside)

theorem Ordered.of_child {head : Node} {children : List SyntaxTree}
    (ordered : (node head children).Ordered) : ∀ child ∈ children, child.Ordered :=
  fun _ member below inside => ordered below (mem_subtrees_of_child member inside)

theorem Marked.tainted_iff {tree : SyntaxTree} (marked : tree.Marked) :
    tree.head.tainted = true ↔ ∃ found ∈ tree.nodes, found.isFault = true :=
  marked tree tree.mem_subtrees_self

theorem Ordered.within {tree : SyntaxTree} (ordered : tree.Ordered) :
    Within tree.head.start tree.head.stop tree.children :=
  ordered tree tree.mem_subtrees_self

theorem Within.start_le_stop {start stop : Nat} {trees : List SyntaxTree}
    (within : Within start stop trees) : start ≤ stop := by
  induction trees generalizing start with
  | nil => exact within
  | cons tree rest ih =>
      have after := ih within.2.2
      have first := within.1
      have own := within.2.1
      omega

theorem Within.bounds {start stop : Nat} {trees : List SyntaxTree}
    (within : Within start stop trees)
    (inside : ∀ tree ∈ trees, ∀ found ∈ tree.nodes, tree.head.start ≤ found.start ∧
      found.start ≤ tree.head.stop ∧ found.stop ≤ tree.head.stop) :
    ∀ found ∈ nodesAmong trees, start ≤ found.start ∧ found.start ≤ stop ∧ found.stop ≤ stop := by
  induction trees generalizing start with
  | nil => simp [nodesAmong]
  | cons tree rest ih =>
      obtain ⟨before, own, after⟩ := within
      intro found member
      rcases List.mem_append.1 member with here | later
      · have bounds := inside tree (by simp) found here
        have stops := after.start_le_stop
        omega
      · have bounds := ih after (fun other listed => inside other (by simp [listed])) found later
        omega

theorem Ordered.bounds {tree : SyntaxTree} (ordered : tree.Ordered) :
    ∀ found ∈ tree.nodes, tree.head.start ≤ found.start ∧ found.start ≤ tree.head.stop ∧
      found.stop ≤ tree.head.stop := by
  induction tree using tree_induction with
  | step head children ih =>
      have within := ordered.within
      intro found member
      rcases List.mem_cons.1 member with rfl | below
      · exact ⟨Nat.le_refl _, within.start_le_stop, Nat.le_refl _⟩
      · exact within.bounds (fun child listed => ih child listed (ordered.of_child child listed))
          found below

theorem Within.reading_order {start stop : Nat} {trees : List SyntaxTree}
    (within : Within start stop trees) (ordered : ∀ tree ∈ trees, tree.Ordered)
    (sorted : ∀ tree ∈ trees, tree.nodes.Pairwise fun a b => a.start ≤ b.start) :
    (nodesAmong trees).Pairwise fun a b => a.start ≤ b.start := by
  induction trees generalizing start with
  | nil => exact List.Pairwise.nil
  | cons tree rest ih =>
      obtain ⟨before, own, after⟩ := within
      refine List.pairwise_append.2 ⟨sorted tree (by simp), ?_, ?_⟩
      · exact ih after (fun other listed => ordered other (by simp [listed]))
          (fun other listed => sorted other (by simp [listed]))
      · intro a here b later
        have left := (ordered tree (by simp)).bounds a here
        have right :=
          after.bounds (fun other listed => (ordered other (by simp [listed])).bounds) b later
        omega

theorem Ordered.reading_order {tree : SyntaxTree} (ordered : tree.Ordered) :
    tree.nodes.Pairwise fun a b => a.start ≤ b.start := by
  induction tree using tree_induction with
  | step head children ih =>
      have within := ordered.within
      refine List.pairwise_cons.2 ⟨?_, ?_⟩
      · intro found below
        exact (ordered.bounds found (List.mem_cons_of_mem _ below)).1
      · exact within.reading_order ordered.of_child
          (fun child listed => ih child listed (ordered.of_child child listed))

end Resemblance.SyntaxTree
