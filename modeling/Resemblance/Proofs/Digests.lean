import Resemblance.Proofs.Represents

/-!
What is computed from the last node of a shape to the first comes to the recursion on its tree:
every cell holds what is made of the subtree at its place. The digests of a shape are those of the
subtrees of its tree.
-/

namespace Resemblance

namespace ShapeTree

theorem subtrees_among_length {trees : List ShapeTree}
    (counted : ∀ tree ∈ trees, tree.subtrees.length = tree.size) :
    (subtreesAmong trees).length = sizes trees := by
  induction trees with
  | nil => rfl
  | cons tree rest ih =>
      simp only [subtreesAmong, sizes, List.length_append, counted tree (by simp),
        ih (fun other member => counted other (by simp [member]))]

theorem subtrees_length (tree : ShapeTree) : tree.subtrees.length = tree.size := by
  induction tree using tree_induction with
  | step kind text children ih =>
      simp only [subtrees, size, List.length_cons, subtrees_among_length ih]
      omega

/-- A node of the table belongs to the subtree at its place, and its children to the subtrees
below. -/
def Mirrors (below : List ShapeTree) (place : Nat) (entry : ShapeNode) : Prop :=
  ∃ children, below[place]? = some (node entry.kind entry.text children) ∧
    entry.children.toList.map (fun child => below[child]?) = children.map some

theorem places_mirror {below : List ShapeTree} {start : Nat} {trees : List ShapeTree}
    (segment : Shape.Segment below start (subtreesAmong trees)) :
    (places start trees).map (fun child => below[child]?) = trees.map some := by
  induction trees generalizing start with
  | nil => rfl
  | cons tree rest ih =>
      simp only [subtreesAmong] at segment
      have later := segment.right
      rw [subtrees_length] at later
      have first : below[start]? = some tree := by
        cases tree with
        | node kind text children => exact segment.left.head
      simp only [places, List.map_cons, first, ih later]

theorem rows_among_mirror {below : List ShapeTree} {depth start : Nat} {trees : List ShapeTree}
    (segment : Shape.Segment below start (subtreesAmong trees))
    (mirror : ∀ tree ∈ trees, ∀ depth start, Shape.Segment below start tree.subtrees →
      ∀ entry ∈ (tree.rows depth start).zipIdx start, Mirrors below entry.2 entry.1) :
    ∀ entry ∈ (rowsAmong depth start trees).zipIdx start, Mirrors below entry.2 entry.1 := by
  induction trees generalizing start with
  | nil => exact fun _ member => absurd member List.not_mem_nil
  | cons tree rest ih =>
      simp only [subtreesAmong] at segment
      have later := segment.right
      rw [subtrees_length] at later
      intro entry member
      rw [rowsAmong, List.zipIdx_append, rows_length] at member
      rcases List.mem_append.1 member with here | other
      · exact mirror tree (by simp) depth start segment.left entry here
      · exact ih later (fun tree listed => mirror tree (by simp [listed])) entry other

theorem rows_mirror {below : List ShapeTree} {depth start : Nat} {tree : ShapeTree}
    (segment : Shape.Segment below start tree.subtrees) :
    ∀ entry ∈ (tree.rows depth start).zipIdx start, Mirrors below entry.2 entry.1 := by
  induction tree using tree_induction generalizing depth start with
  | step kind text children ih =>
      simp only [subtrees] at segment
      intro entry member
      rw [rows, List.zipIdx_cons] at member
      rcases List.mem_cons.1 member with rfl | deeper
      · exact ⟨children, segment.head, places_mirror segment.tail⟩
      · exact rows_among_mirror segment.tail (fun child listed _ _ run => ih child listed run)
          entry deeper

end ShapeTree

namespace Shape

variable {β : Type} {combine : String → Option String → List β → β}

/-- The cells from a place on hold what `combine` makes of the subtrees there. -/
structure Filled (combine : String → Option String → List β → β) (below : List ShapeTree)
    (place : Nat) (cells : Array (Option β)) : Prop where
  size : cells.size = below.length
  done : ∀ index, place ≤ index →
    cells[index]?.join = (below[index]?).map (ShapeTree.fold combine)

theorem Filled.held_eq {below : List ShapeTree} {place : Nat} {cells : Array (Option β)}
    (filled : Filled combine below place cells) {places : List Nat} {children : List ShapeTree}
    (behind : ∀ child ∈ places, place ≤ child)
    (found : places.map (fun child => below[child]?) = children.map some) :
    held cells places.toArray = ShapeTree.folds combine children := by
  induction places generalizing children with
  | nil =>
      have none_left : children = [] := by simpa using found.symm
      subst none_left
      rfl
  | cons first rest ih =>
      cases children with
      | nil => simp at found
      | cons tree others =>
          simp only [List.map_cons, List.cons.injEq] at found
          obtain ⟨here, later⟩ := found
          have cell := filled.done first (behind first (by simp))
          have remaining := ih (fun child member => behind child (by simp [member])) later
          rw [here] at cell
          rw [ShapeTree.folds, ← remaining]
          simp [held, cell]

theorem Filled.step {below : List ShapeTree} {place : Nat} {cells : Array (Option β)}
    (filled : Filled combine below (place + 1) cells) {entry : ShapeNode}
    (mirror : ShapeTree.Mirrors below place entry)
    (behind : ∀ child ∈ entry.children.toList, place < child) :
    Filled combine below place (cells.setIfInBounds place
      (some (combine entry.kind entry.text (held cells entry.children)))) := by
  obtain ⟨children, here, found⟩ := mirror
  have value := filled.held_eq behind found
  have inside : place < below.length := (List.getElem?_eq_some_iff.1 here).1
  refine ⟨by rw [Array.size_setIfInBounds, filled.size], ?_⟩
  intro index reached
  rw [Array.getElem?_setIfInBounds]
  by_cases same : place = index
  · subst same
    rw [if_pos rfl, if_pos (by rw [filled.size]; exact inside), here]
    simp only [Option.join_some, Option.map_some, ShapeTree.fold, ← value, Array.toArray_toList]
  · rw [if_neg same]
    exact filled.done index (by omega)

/-- All steps of filling: the induction goes from the last place down to the root. -/
theorem Filled.fill {nodes : Array ShapeNode} {below : List ShapeTree}
    (mirror : ∀ place (entry : ShapeNode), nodes[place]? = some entry →
      ShapeTree.Mirrors below place entry)
    (linked : ∀ place (entry : ShapeNode), nodes[place]? = some entry →
      ∀ child ∈ entry.children.toList, place < child)
    {place : Nat} (inside : place ≤ nodes.size) {cells : Array (Option β)}
    (filled : Filled combine below place cells) :
    Filled combine below 0 (Shape.fill combine nodes place cells) := by
  induction place generalizing cells with
  | zero => exact filled
  | succ place ih =>
      have found : nodes[place]? = some nodes[place] := Array.getElem?_eq_getElem inside
      simp only [Shape.fill, found]
      exact ih (Nat.le_of_succ_le inside)
        (filled.step (mirror place _ found) (linked place _ found))

theorem Filled.toList_eq {below : List ShapeTree} {cells : Array (Option β)}
    (filled : Filled combine below 0 cells) :
    cells.toList = below.map fun tree => some (ShapeTree.fold combine tree) := by
  apply List.ext_getElem
  · rw [Array.length_toList, filled.size, List.length_map]
  · intro index inside within
    have value := filled.done index (Nat.zero_le _)
    rw [Array.length_toList] at inside
    have bounded : index < below.length := by
      rw [← filled.size]
      exact inside
    rw [Array.getElem?_eq_getElem inside, List.getElem?_eq_getElem bounded] at value
    simpa using value

theorem of_tree_size (source : List Char) (tree : SyntaxTree) :
    (ofTree source tree).size = (ShapeTree.ofTree source tree).size := by
  rw [of_tree_eq_rows]
  simp [Shape.size, ShapeTree.rows_length]

/-- What is computed from the last node to the first is the recursion on the tree, at every node and
whatever the cells hold at first. -/
theorem fill_eq_folds (combine : String → Option String → List β → β) (source : List Char)
    (tree : SyntaxTree) {cells : Array (Option β)}
    (size : cells.size = (ofTree source tree).size) :
    (fill combine (ofTree source tree).nodes (ofTree source tree).size cells).toList =
      (ShapeTree.ofTree source tree).subtrees.map fun below =>
        some (ShapeTree.fold combine below) := by
  have linked := (of_tree_represents source tree).linked
  have reached : (ofTree source tree).size ≤ (ofTree source tree).nodes.size := Nat.le_refl _
  rw [of_tree_size] at size reached ⊢
  rw [of_tree_eq_rows] at linked reached ⊢
  generalize ShapeTree.ofTree source tree = reduced at linked size reached ⊢
  have mirror : ∀ place (entry : ShapeNode), (reduced.rows 1 0).toArray[place]? = some entry →
      ShapeTree.Mirrors reduced.subtrees place entry := by
    intro place entry found
    have member : (entry, place) ∈ (reduced.rows 1 0).zipIdx 0 := by
      rw [List.mem_zipIdx_iff_getElem?]
      simpa using found
    exact ShapeTree.rows_mirror (Segment.whole reduced.subtrees) (entry, place) member
  have start : Filled combine reduced.subtrees reduced.size cells := by
    refine ⟨by rw [size, ShapeTree.subtrees_length], ?_⟩
    intro index beyond
    rw [Array.getElem?_eq_none (by rw [size]; exact beyond),
      List.getElem?_eq_none (by rw [ShapeTree.subtrees_length]; exact beyond)]
    rfl
  apply Filled.toList_eq
  exact start.fill mirror (fun place entry found => (linked place entry found).behind) reached

theorem bottom_up_eq_folds (combine : String → Option String → List β → β) (source : List Char)
    (tree : SyntaxTree) :
    (bottomUp combine (Shape.ofTree source tree)).toList =
      (ShapeTree.ofTree source tree).subtrees.map fun below =>
        some (ShapeTree.fold combine below) :=
  fill_eq_folds combine source tree Array.size_replicate

theorem digests_of_tree {H : Type} [BEq H] (hasher : Hasher H) (source : List Char)
    (tree : SyntaxTree) :
    (Shape.ofTree source tree).digests hasher =
      ((ShapeTree.ofTree source tree).subtrees.map (ShapeTree.fold hasher.combine)).eraseDups := by
  rw [digests, bottom_up_eq_folds]
  congr 1
  rw [List.filterMap_map]
  exact congrFun List.filterMap_eq_map _

end Shape
end Resemblance
