import Resemblance.Proofs.Comments
import Resemblance.Proofs.TreeOrder

/-!
Trees that are equal up to the order of siblings, at any depth. If digests do not collide, two trees
have equal digests exactly where they are equal up to that order, and two shapes share all digests
exactly where their roots do: a subtree with the digest of a root is of the root's size.
-/

namespace Resemblance

namespace ShapeTree

/-- One list of trees becomes the other by changing the order of siblings, at any depth. -/
inductive Rearranged : List ShapeTree → List ShapeTree → Prop
  | nil : Rearranged [] []
  | cons {kind : String} {text : Option String} {children children' rest rest' : List ShapeTree}
      (below : Rearranged children children') (later : Rearranged rest rest') :
      Rearranged (node kind text children :: rest) (node kind text children' :: rest')
  | swap (tree other : ShapeTree) (rest : List ShapeTree) :
      Rearranged (tree :: other :: rest) (other :: tree :: rest)
  | trans {trees others further : List ShapeTree} (first : Rearranged trees others)
      (second : Rearranged others further) : Rearranged trees further

def SameUpToOrder (tree other : ShapeTree) : Prop :=
  Rearranged [tree] [other]

namespace Rearranged

theorem refl : ∀ trees, Rearranged trees trees
  | [] => .nil
  | node _ _ children :: rest => .cons (refl children) (refl rest)

theorem append_left (front : List ShapeTree) {trees others : List ShapeTree}
    (moved : Rearranged trees others) : Rearranged (front ++ trees) (front ++ others) := by
  induction front with
  | nil => exact moved
  | cons tree rest ih =>
      cases tree with
      | node kind text children => exact .cons (refl children) ih

theorem append {trees others rest rest' : List ShapeTree} (moved : Rearranged trees others)
    (later : Rearranged rest rest') : Rearranged (trees ++ rest) (others ++ rest') := by
  induction moved generalizing rest rest' with
  | nil => exact later
  | cons below next ihBelow ihNext => exact .cons below (ihNext later)
  | swap tree other between =>
      exact .trans (.swap tree other (between ++ rest))
        (later.append_left (other :: tree :: between))
  | trans first second ihFirst ihSecond => exact .trans (ihFirst later) (ihSecond (refl rest'))

theorem of_perm {trees others : List ShapeTree} (perm : trees.Perm others) :
    Rearranged trees others := by
  induction perm with
  | nil => exact .nil
  | cons tree _ ih => exact ih.append_left [tree]
  | swap tree other rest => exact .swap other tree rest
  | trans _ _ first second => exact .trans first second

theorem of_pairs {trees others : List ShapeTree}
    (pairs : List.Forall₂ SameUpToOrder trees others) : Rearranged trees others := by
  induction pairs with
  | nil => exact .nil
  | cons first _ ih => exact first.append ih

theorem of_keys {β : Type} {key : ShapeTree → β} {trees others : List ShapeTree}
    (agree : ∀ tree ∈ trees, ∀ other ∈ others, key tree = key other → SameUpToOrder tree other)
    (perm : (trees.map key).Perm (others.map key)) : Rearranged trees others := by
  obtain ⟨matched, moved, equal⟩ := exists_perm_map_eq perm
  have pairs : List.Forall₂ SameUpToOrder trees matched :=
    pairs_of_map_eq
      (fun tree member other member' => agree tree member other (moved.subset member'))
      equal
  exact .trans (of_pairs pairs) (of_perm moved)

variable {H : Type} {hasher : Hasher H}

/-- The digests of rearranged trees are the same in some order: moving siblings below a node does
not change its digest. -/
theorem digests_perm (orders : hasher.Orders) {trees others : List ShapeTree}
    (moved : Rearranged trees others) :
    (trees.map (digest hasher)).Perm (others.map (digest hasher)) := by
  induction moved with
  | nil => exact .nil
  | @cons kind text children children' rest rest' below later ihBelow ihLater =>
      have same : (node kind text children).digest hasher =
          (node kind text children').digest hasher := by
        rw [digest, digest, fold, fold, folds_eq_map, folds_eq_map]
        exact orders.combine_eq kind text ihBelow
      rw [List.map_cons, List.map_cons, same]
      exact ihLater.cons _
  | swap tree other rest => exact .swap _ _ _
  | trans first second ihFirst ihSecond => exact ihFirst.trans ihSecond

theorem subtree_digests_perm (orders : hasher.Orders) {trees others : List ShapeTree}
    (moved : Rearranged trees others) :
    ((subtreesAmong trees).map (digest hasher)).Perm
      ((subtreesAmong others).map (digest hasher)) := by
  induction moved with
  | nil => exact .nil
  | @cons kind text children children' rest rest' below later ihBelow ihLater =>
      have moved : Rearranged [node kind text children] [node kind text children'] :=
        .cons below .nil
      have roots := moved.digests_perm orders
      simp only [subtreesAmong, subtrees, List.map_append, List.map_cons]
      exact (roots.append ihBelow).append ihLater
  | swap tree other rest =>
      simp only [subtreesAmong, List.map_append]
      exact List.perm_append_comm_assoc _ _ _
  | trans first second ihFirst ihSecond => exact ihFirst.trans ihSecond

end Rearranged

end ShapeTree

open ShapeTree

variable {H : Type}

namespace Hasher.Separates

variable {hasher : Hasher H} {tree other : ShapeTree}

/-- The induction is on one of the trees; the children of both are matched by their digests. -/
theorem same_up_to_order (separates : hasher.Separates (subtreesOfBoth tree other))
    {a b : ShapeTree} (inside : a ∈ subtreesOfBoth tree other)
    (inside' : b ∈ subtreesOfBoth tree other) (equal : a.digest hasher = b.digest hasher) :
    SameUpToOrder a b := by
  induction a using ShapeTree.tree_induction generalizing b with
  | step kind text children ih =>
      obtain ⟨kinds, texts, sorted⟩ := separates _ inside _ inside' equal
      cases b with
      | node kind' text' children' =>
          simp only [ShapeTree.kind, ShapeTree.text, ShapeTree.children] at kinds texts sorted
          subst kinds texts
          have perm : (children.map (digest hasher)).Perm (children'.map (digest hasher)) := by
            refine (List.mergeSort_perm _ hasher.le).symm.trans ?_
            rw [sorted]
            exact List.mergeSort_perm _ hasher.le
          refine .cons (.of_keys ?_ perm) .nil
          intro child member child' member'
          exact ih child member (child_mem_subtrees_of_both inside member)
            (child_mem_subtrees_of_both inside' member')

theorem size_le (separates : hasher.Separates (subtreesOfBoth tree other))
    (found : tree.digest hasher ∈ other.subtrees.map (digest hasher)) :
    tree.size ≤ other.size ∧
      (tree.size = other.size → tree.digest hasher = other.digest hasher) := by
  obtain ⟨below, inside, equal⟩ := List.mem_map.1 found
  have sizes := (separates.same_measures (List.mem_append_left _ tree.mem_subtrees_self)
    (List.mem_append_right _ inside) equal.symm).1
  rcases eq_or_size_lt_of_mem_subtrees inside with rfl | smaller
  · exact ⟨Nat.le_of_eq sizes, fun _ => equal.symm⟩
  · exact ⟨by omega, fun same => by omega⟩

theorem comm (separates : hasher.Separates (subtreesOfBoth tree other)) :
    hasher.Separates (subtreesOfBoth other tree) := by
  have both : ∀ {a}, a ∈ subtreesOfBoth other tree → a ∈ subtreesOfBoth tree other :=
    fun member => List.perm_append_comm.mem_iff.1 member
  exact fun a inside b inside' => separates a (both inside) b (both inside')

theorem shared_iff (separates : hasher.Separates (subtreesOfBoth tree other))
    (orders : hasher.Orders) :
    (∀ found, found ∈ tree.subtrees.map (digest hasher) ↔
        found ∈ other.subtrees.map (digest hasher)) ↔ SameUpToOrder tree other := by
  constructor
  · intro same
    have first := separates.size_le ((same _).1 (List.mem_map_of_mem tree.mem_subtrees_self))
    have second := separates.comm.size_le ((same _).2 (List.mem_map_of_mem other.mem_subtrees_self))
    exact separates.same_up_to_order (List.mem_append_left _ tree.mem_subtrees_self)
      (List.mem_append_right _ other.mem_subtrees_self)
      (first.2 (Nat.le_antisymm first.1 second.1))
  · intro same found
    have perm := same.subtree_digests_perm orders
    simp only [subtreesAmong, List.append_nil] at perm
    exact perm.mem_iff

end Hasher.Separates

end Resemblance
