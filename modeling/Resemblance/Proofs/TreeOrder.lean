import Resemblance.Proofs.Collisions

/-!
The order of trees is total: of two trees one comes first or they are equal, and what comes between
is passed over. Digests in a total order can be sorted in one way only, so that the digest of a node
does not depend on the order of its children.
-/

namespace Resemblance

/-- Two comparisons in a row that do not go down, and the comparison of both ends: it does not go
down either, and it stays level only where both did. -/
def Chained (first second both : Ordering) : Prop :=
  first.isLE = true → second.isLE = true →
    both.isLE = true ∧ (both = .eq → first = .eq ∧ second = .eq)

theorem Chained.then {first second both first' second' both' : Ordering}
    (chained : Chained first second both) (chained' : Chained first' second' both') :
    Chained (first.then first') (second.then second') (both.then both') := by
  intro up up'
  rw [Ordering.isLE_then_iff_and] at up up'
  obtain ⟨rises, level⟩ := chained up.1 up'.1
  cases both with
  | lt => exact ⟨rfl, fun same => by cases same⟩
  | gt => cases rises
  | eq =>
      obtain ⟨rfl, rfl⟩ := level rfl
      exact chained' (by simpa using up.2) (by simpa using up'.2)

theorem chained_compare {α : Type} (cmp : α → α → Ordering) [Std.TransCmp cmp]
    [Std.LawfulEqCmp cmp] (a b c : α) : Chained (cmp a b) (cmp b c) (cmp a c) := by
  intro up up'
  refine ⟨Std.TransCmp.isLE_trans up up', fun level => ?_⟩
  obtain rfl := Std.LawfulEqCmp.eq_of_compare level
  have same : cmp a b = .eq := Std.OrientedCmp.isLE_antisymm up up'
  exact ⟨same, Std.OrientedCmp.eq_symm same⟩

namespace ShapeTree

theorem compare_text_eq (text other : Option String) :
    compareText text other = Ord.compare text other := by
  cases text with
  | none =>
      cases other with
      | none => rfl
      | some written => rfl
  | some own =>
      cases other with
      | none => rfl
      | some written => rfl

theorem compare_all_swap {trees others : List ShapeTree}
    (swapped : ∀ tree ∈ trees, ∀ other, compare tree other = (compare other tree).swap) :
    compareAll trees others = (compareAll others trees).swap := by
  induction trees generalizing others with
  | nil =>
      cases others with
      | nil => rfl
      | cons other more => rfl
  | cons tree rest ih =>
      cases others with
      | nil => rfl
      | cons other more =>
          rw [compareAll, compareAll, Ordering.swap_then, swapped tree (by simp) other,
            ih fun later member => swapped later (by simp [member])]

theorem compare_swap (tree other : ShapeTree) : compare tree other = (compare other tree).swap := by
  induction tree using tree_induction generalizing other with
  | step kind text children ih =>
      cases other with
      | node kind' text' children' =>
          have kinds : Ord.compare kind kind' = (Ord.compare kind' kind).swap :=
            Std.OrientedCmp.eq_swap
          have texts : Ord.compare text text' = (Ord.compare text' text).swap :=
            Std.OrientedCmp.eq_swap
          rw [compare, compare, compare_text_eq, compare_text_eq, kinds, texts,
            compare_all_swap ih, Ordering.swap_then, Ordering.swap_then]

theorem compare_all_chained {trees others further : List ShapeTree}
    (chained : ∀ tree ∈ trees, ∀ other third,
      Chained (compare tree other) (compare other third) (compare tree third)) :
    Chained (compareAll trees others) (compareAll others further) (compareAll trees further) := by
  induction trees generalizing others further with
  | nil =>
      cases others with
      | nil => exact fun up up' => ⟨up', fun level => ⟨rfl, level⟩⟩
      | cons other more =>
          cases further with
          | nil => exact fun up up' => by cases up'
          | cons third beyond => exact fun up up' => ⟨rfl, fun level => by cases level⟩
  | cons tree rest ih =>
      cases others with
      | nil => exact fun up => by cases up
      | cons other more =>
          cases further with
          | nil => exact fun up up' => by cases up'
          | cons third beyond =>
              rw [compareAll, compareAll, compareAll]
              exact (chained tree (by simp) other third).then
                (ih fun later member => chained later (by simp [member]))

/-- The induction is on the first tree: kinds and texts chain, and so do the children one by one. -/
theorem compare_chained (tree other third : ShapeTree) :
    Chained (compare tree other) (compare other third) (compare tree third) := by
  induction tree using tree_induction generalizing other third with
  | step kind text children ih =>
      obtain ⟨kind', text', children'⟩ := other
      obtain ⟨kind'', text'', children''⟩ := third
      simp only [compare, compare_text_eq]
      exact (chained_compare Ord.compare kind kind' kind'').then
        ((chained_compare Ord.compare text text' text'').then (compare_all_chained ih))

instance : Std.TransCmp compare where
  eq_swap := compare_swap _ _
  isLE_trans up up' := (compare_chained _ _ _ up up').1

theorem le_eq_isLE (tree other : ShapeTree) : le tree other = (compare tree other).isLE := by
  rw [le]
  cases compare tree other with
  | lt => rfl
  | eq => rfl
  | gt => rfl

end ShapeTree

variable {H : Type}

structure Hasher.Orders (hasher : Hasher H) : Prop where
  total : ∀ a b, (hasher.le a b || hasher.le b a) = true
  trans : ∀ a b c, hasher.le a b = true → hasher.le b c = true → hasher.le a c = true
  antisymm : ∀ a b, hasher.le a b = true → hasher.le b a = true → a = b

theorem ShapeTree.hasher_orders : ShapeTree.hasher.Orders where
  total a b := by
    simp only [hasher, le_eq_isLE, Bool.or_eq_true]
    rw [compare_swap b a, Ordering.isLE_swap]
    cases compare a b with
    | lt => exact Or.inl rfl
    | eq => exact Or.inl rfl
    | gt => exact Or.inr rfl
  trans a b c up up' := by
    simp only [hasher, le_eq_isLE] at up up' ⊢
    exact Std.TransCmp.isLE_trans up up'
  antisymm a b up up' := by
    simp only [hasher, le_eq_isLE] at up up'
    exact (compare_eq_iff a b).1 (Std.OrientedCmp.isLE_antisymm up up')

/-- Digests can be sorted in one way only. -/
theorem Hasher.Orders.sort_eq {hasher : Hasher H} (orders : hasher.Orders) {first second : List H}
    (perm : first.Perm second) : first.mergeSort hasher.le = second.mergeSort hasher.le := by
  have sorted := List.pairwise_mergeSort orders.trans orders.total
  have same := (List.mergeSort_perm first hasher.le).trans
    (perm.trans (List.mergeSort_perm second hasher.le).symm)
  exact same.eq_of_pairwise (fun a b _ _ => orders.antisymm a b) (sorted first) (sorted second)

theorem Hasher.Orders.combine_eq {hasher : Hasher H} (orders : hasher.Orders) (kind : String)
    (text : Option String) {below below' : List H} (perm : below.Perm below') :
    hasher.combine kind text below = hasher.combine kind text below' := by
  rw [Hasher.combine, Hasher.combine, orders.sort_eq perm]

end Resemblance
