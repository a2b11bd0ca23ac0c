import Resemblance.Proofs.Digests
import Resemblance.Proofs.Tally

/-!
Digests without collisions. Subtrees with equal digests then have equal kinds and texts, and the
same digests below them in some order, so that they agree in every measure that is summed up over a
tree.
-/

namespace Resemblance

namespace ShapeTree

def kind : ShapeTree → String
  | node kind _ _ => kind

def text : ShapeTree → Option String
  | node _ text _ => text

def children : ShapeTree → List ShapeTree
  | node _ _ children => children

def digest {H : Type} (hasher : Hasher H) (tree : ShapeTree) : H :=
  fold hasher.combine tree

def textLength : Option String → Nat
  | none => 0
  | some text => text.length

mutual

def leafLength : ShapeTree → Nat
  | node _ text children => textLength text + leafLengths children

def leafLengths : List ShapeTree → Nat
  | [] => 0
  | tree :: rest => leafLength tree + leafLengths rest

end

theorem sizes_eq_sum (trees : List ShapeTree) : sizes trees = sumOf (trees.map size) := by
  induction trees with
  | nil => rfl
  | cons tree rest ih => rw [sizes, List.map_cons, sumOf, ih]

theorem leaf_lengths_eq_sum (trees : List ShapeTree) :
    leafLengths trees = sumOf (trees.map leafLength) := by
  induction trees with
  | nil => rfl
  | cons tree rest ih => rw [leafLengths, List.map_cons, sumOf, ih]

theorem mem_subtrees_among {below : ShapeTree} {trees : List ShapeTree} :
    below ∈ subtreesAmong trees ↔ ∃ tree ∈ trees, below ∈ tree.subtrees := by
  induction trees with
  | nil => simp [subtreesAmong]
  | cons tree rest ih => simp [subtreesAmong, ih]

theorem mem_subtrees_self (tree : ShapeTree) : tree ∈ tree.subtrees := by
  cases tree
  simp [subtrees]

theorem mem_subtrees_of_child {kind : String} {text : Option String} {children : List ShapeTree}
    {child below : ShapeTree} (member : child ∈ children) (inside : below ∈ child.subtrees) :
    below ∈ (node kind text children).subtrees := by
  rw [subtrees, List.mem_cons]
  exact Or.inr (mem_subtrees_among.2 ⟨child, member, inside⟩)

theorem mem_subtrees_trans {tree below deeper : ShapeTree} (inside : below ∈ tree.subtrees)
    (within : deeper ∈ below.subtrees) : deeper ∈ tree.subtrees := by
  induction tree using tree_induction with
  | step kind text children ih =>
      rw [subtrees, List.mem_cons] at inside
      rcases inside with rfl | lower
      · exact within
      · obtain ⟨child, member, reached⟩ := mem_subtrees_among.1 lower
        exact mem_subtrees_of_child member (ih child member reached)

theorem child_mem_subtrees {tree child : ShapeTree} (member : child ∈ tree.children) :
    child ∈ tree.subtrees := by
  cases tree with
  | node kind text children => exact mem_subtrees_of_child member child.mem_subtrees_self

theorem size_le_sizes {tree : ShapeTree} {trees : List ShapeTree} (member : tree ∈ trees) :
    tree.size ≤ sizes trees := by
  induction trees with
  | nil => exact absurd member List.not_mem_nil
  | cons first rest ih =>
      rw [sizes]
      rcases List.mem_cons.1 member with rfl | later
      · exact Nat.le_add_right _ _
      · exact Nat.le_trans (ih later) (Nat.le_add_left _ _)

theorem eq_or_size_lt_of_mem_subtrees {tree below : ShapeTree} (inside : below ∈ tree.subtrees) :
    below = tree ∨ below.size < tree.size := by
  induction tree using tree_induction with
  | step kind text children ih =>
      rw [subtrees, List.mem_cons] at inside
      rcases inside with rfl | lower
      · exact Or.inl rfl
      · obtain ⟨child, member, reached⟩ := mem_subtrees_among.1 lower
        have bounded := size_le_sizes member
        right
        rw [size]
        rcases ih child member reached with rfl | smaller
        · omega
        · omega

end ShapeTree

variable {H : Type}

/-- Digests of these trees are only equal where kinds and texts are, and the digests below in
order. -/
def Hasher.Separates (hasher : Hasher H) (trees : List ShapeTree) : Prop :=
  ∀ a ∈ trees, ∀ b ∈ trees, a.digest hasher = b.digest hasher →
    a.kind = b.kind ∧ a.text = b.text ∧
      (a.children.map (ShapeTree.digest hasher)).mergeSort hasher.le =
        (b.children.map (ShapeTree.digest hasher)).mergeSort hasher.le

theorem ShapeTree.hasher_separates (trees : List ShapeTree) :
    ShapeTree.hasher.Separates trees := by
  rintro ⟨kind, text, children⟩ _ ⟨kind', text', children'⟩ _ equal
  simp only [digest, fold, Hasher.combine, hasher, node.injEq, folds_eq_map] at equal
  exact equal

def ShapeTree.subtreesOfBoth (tree other : ShapeTree) : List ShapeTree :=
  tree.subtrees ++ other.subtrees

theorem ShapeTree.child_mem_subtrees_of_both {tree other a child : ShapeTree}
    (member : a ∈ subtreesOfBoth tree other) (listed : child ∈ a.children) :
    child ∈ subtreesOfBoth tree other := by
  have below := child_mem_subtrees listed
  rcases List.mem_append.1 member with left | right
  · exact List.mem_append_left _ (mem_subtrees_trans left below)
  · exact List.mem_append_right _ (mem_subtrees_trans right below)

namespace Hasher.Separates

variable {hasher : Hasher H} {tree other : ShapeTree}

/-- The induction is on one of the trees; the digests below the other are the same in some order. -/
theorem same_measures (separates : hasher.Separates (ShapeTree.subtreesOfBoth tree other))
    {a b : ShapeTree} (inside : a ∈ ShapeTree.subtreesOfBoth tree other)
    (inside' : b ∈ ShapeTree.subtreesOfBoth tree other)
    (equal : a.digest hasher = b.digest hasher) :
    a.size = b.size ∧ a.leafLength = b.leafLength := by
  induction a using ShapeTree.tree_induction generalizing b with
  | step kind text children ih =>
      obtain ⟨_, texts, sorted⟩ := separates _ inside _ inside' equal
      cases b with
      | node kind' text' children' =>
          simp only [ShapeTree.text, ShapeTree.children] at texts sorted
          have perm : (children.map (ShapeTree.digest hasher)).Perm
              (children'.map (ShapeTree.digest hasher)) := by
            refine (List.mergeSort_perm _ hasher.le).symm.trans ?_
            rw [sorted]
            exact List.mergeSort_perm _ hasher.le
          have agree : ∀ child ∈ children, ∀ child' ∈ children',
              child.digest hasher = child'.digest hasher →
                child.size = child'.size ∧ child.leafLength = child'.leafLength :=
            fun child member child' member' => ih child member
              (ShapeTree.child_mem_subtrees_of_both inside member)
              (ShapeTree.child_mem_subtrees_of_both inside' member')
          have sizes := sum_of_map_eq (fun child member child' member' same =>
            (agree child member child' member' same).1) perm
          have lengths := sum_of_map_eq (fun child member child' member' same =>
            (agree child member child' member' same).2) perm
          simp only [ShapeTree.size, ShapeTree.leafLength, ShapeTree.sizes_eq_sum,
            ShapeTree.leaf_lengths_eq_sum, sizes, lengths, texts, and_self]

theorem same_leaf_length (separates : hasher.Separates (ShapeTree.subtreesOfBoth tree other))
    (size : tree.size = other.size)
    (found : tree.digest hasher ∈ other.subtrees.map (ShapeTree.digest hasher)) :
    tree.leafLength = other.leafLength := by
  obtain ⟨below, inside, equal⟩ := List.mem_map.1 found
  obtain ⟨sizes, lengths⟩ := separates.same_measures
    (List.mem_append_left _ tree.mem_subtrees_self) (List.mem_append_right _ inside) equal.symm
  rcases ShapeTree.eq_or_size_lt_of_mem_subtrees inside with rfl | smaller
  · exact lengths
  · omega

end Hasher.Separates
end Resemblance
