import Resemblance.Edit

/-!
Edit scripts: ways to turn one list of trees into another by deleting and inserting whole subtrees
and by keeping pairs of nodes of one kind. Read backwards, a script turns the second list into the
first at the same cost, so that a least cost does not depend on the direction. The distance of the
library, which is computed row by row, is the least cost of a script.
-/

namespace Resemblance

namespace EditTree

variable {H : Type}

theorem tree_induction {holds : EditTree H → Prop}
    (step : ∀ kind weight children, (∀ child ∈ children, holds child) →
      holds (node kind weight children)) : ∀ tree, holds tree
  | node kind weight children =>
      step kind weight children fun child _ => tree_induction step child

end EditTree

namespace Edit

variable {H : Type}

/-- A way to turn the first list of trees into the second at a cost. -/
inductive Script : List (EditTree H) → List (EditTree H) → Nat → Prop
  | done : Script [] [] 0
  | delete {tree : EditTree H} {rest targets : List (EditTree H)} {cost : Nat}
      (later : Script rest targets cost) : Script (tree :: rest) targets (tree.weight + cost)
  | insert {target : EditTree H} {trees rest : List (EditTree H)} {cost : Nat}
      (later : Script trees rest cost) : Script trees (target :: rest) (target.weight + cost)
  | keep {tree target : EditTree H} {rest others : List (EditTree H)} {inner cost : Nat}
      (kind : tree.kind = target.kind) (below : Script tree.children target.children inner)
      (later : Script rest others cost) : Script (tree :: rest) (target :: others) (inner + cost)

theorem Script.symm {trees targets : List (EditTree H)} {cost : Nat}
    (script : Script trees targets cost) : Script targets trees cost := by
  induction script with
  | done => exact .done
  | delete later ih => exact .insert ih
  | insert later ih => exact .delete ih
  | keep kind below later ihBelow ihLater => exact .keep kind.symm ihBelow ihLater

structure Least (trees targets : List (EditTree H)) (cost : Nat) : Prop where
  reached : Script trees targets cost
  least : ∀ other, Script trees targets other → cost ≤ other

theorem Least.unique {trees targets : List (EditTree H)} {cost other : Nat}
    (first : Least trees targets cost) (second : Least trees targets other) : cost = other :=
  Nat.le_antisymm (first.least other second.reached) (second.least cost first.reached)

theorem Least.symm {trees targets : List (EditTree H)} {cost : Nat}
    (least : Least trees targets cost) : Least targets trees cost where
  reached := least.reached.symm
  least other script := least.least other script.symm

/-- A distance of trees that is the least cost of a script. -/
def LeastCost (diff : EditTree H → EditTree H → Nat) : Prop :=
  ∀ a b, Least [a] [b] (diff a b)

theorem LeastCost.comm {diff : EditTree H → EditTree H → Nat} (least : LeastCost diff)
    (a b : EditTree H) : diff a b = diff b a :=
  (least a b).unique (least b a).symm

/-- Least costs of turning a list into every suffix of another, the longest first. -/
def LeastRow (trees : List (EditTree H)) : List (EditTree H) → List Nat → Prop
  | [], row => ∃ cost, row = [cost] ∧ Least trees [] cost
  | target :: rest, row =>
      ∃ cost more, row = cost :: more ∧ Least trees (target :: rest) cost ∧
        LeastRow trees rest more

theorem LeastRow.first {trees targets : List (EditTree H)} {row : List Nat}
    (costs : LeastRow trees targets row) :
    ∃ cost more, row = cost :: more ∧ Least trees targets cost := by
  cases targets with
  | nil =>
      obtain ⟨cost, rfl, least⟩ := costs
      exact ⟨cost, [], rfl, least⟩
  | cons target rest =>
      obtain ⟨cost, more, rfl, least, -⟩ := costs
      exact ⟨cost, more, rfl, least⟩

theorem LeastRow.first_cost {trees targets : List (EditTree H)} {row : List Nat}
    (costs : LeastRow trees targets row) : Least trees targets (firstCost row) := by
  obtain ⟨cost, more, rfl, least⟩ := costs.first
  exact least

theorem Least.insert_all {targets : List (EditTree H)} {cost : Nat}
    (least : Least [] targets cost) (target : EditTree H) :
    Least [] (target :: targets) (target.weight + cost) where
  reached := .insert least.reached
  least other script := by
    cases script with
    | insert later => exact Nat.add_le_add_left (least.least _ later) _

theorem Least.delete_all {trees : List (EditTree H)} {cost : Nat} (least : Least trees [] cost)
    (tree : EditTree H) : Least (tree :: trees) [] (tree.weight + cost) where
  reached := .delete least.reached
  least other script := by
    cases script with
    | delete later => exact Nat.add_le_add_left (least.least _ later) _

theorem suffix_weights_least (targets : List (EditTree H)) :
    LeastRow [] targets (suffixWeights targets) := by
  induction targets with
  | nil =>
      refine ⟨0, rfl, .done, ?_⟩
      exact fun other _ => Nat.zero_le other
  | cons target rest ih =>
      obtain ⟨cost, more, row, least⟩ := ih.first
      rw [row] at ih
      rw [suffixWeights, row]
      exact ⟨_, _, rfl, least.insert_all target, ih⟩

variable [BEq H]

theorem costs_of_list_least {trees : List (EditTree H)}
    (first : ∀ tree ∈ trees, ∀ (rest targets : List (EditTree H)) row,
      LeastRow rest targets row → LeastRow (tree :: rest) targets (costsOfTree tree targets row))
    (targets : List (EditTree H)) : LeastRow trees targets (costsOfList trees targets) := by
  induction trees with
  | nil =>
      rw [costsOfList]
      exact suffix_weights_least targets
  | cons tree rest ih =>
      rw [costsOfList]
      exact first tree (by simp) rest targets _
        (ih fun other member => first other (by simp [member]))

variable [LawfulBEq H]

/-- The least of the three ways to begin: deleting the first tree, inserting the first target, or
keeping both if their kinds are equal. -/
theorem Least.step {tree target : EditTree H} {rest targets : List (EditTree H)}
    {here after inner next : Nat} (deleted : Least rest (target :: targets) here)
    (inserted : Least (tree :: rest) targets after)
    (below : Least tree.children target.children inner) (later : Least rest targets next) :
    Least (tree :: rest) (target :: targets)
      (if tree.kind == target.kind then
        min (min (tree.weight + here) (target.weight + after)) (inner + next)
      else min (tree.weight + here) (target.weight + after)) := by
  have apart : Script (tree :: rest) (target :: targets)
      (min (tree.weight + here) (target.weight + after)) := by
    rcases Nat.le_total (tree.weight + here) (target.weight + after) with left | right
    · rw [Nat.min_eq_left left]
      exact .delete deleted.reached
    · rw [Nat.min_eq_right right]
      exact .insert inserted.reached
  obtain ⟨cost, equal⟩ : ∃ cost, cost = min (tree.weight + here) (target.weight + after) :=
    ⟨_, rfl⟩
  rw [← equal] at apart ⊢
  refine ⟨?_, ?_⟩
  · split
    next same =>
      rcases Nat.le_total cost (inner + next) with left | right
      · rw [Nat.min_eq_left left]
        exact apart
      · rw [Nat.min_eq_right right]
        exact .keep (eq_of_beq same) below.reached later.reached
    next different => exact apart
  · intro other script
    have bounded : (if tree.kind == target.kind then min cost (inner + next) else cost) ≤ cost := by
      split
      · exact Nat.min_le_left _ _
      · exact Nat.le_refl _
    cases script with
    | delete later' =>
        have := deleted.least _ later'
        omega
    | insert later' =>
        have := inserted.least _ later'
        omega
    | keep kind below' later' =>
        rw [if_pos (beq_iff_eq.2 kind)]
        have := below.least _ below'
        have := later.least _ later'
        omega

theorem costs_with_least (tree : EditTree H) {inner : List (EditTree H) → Nat}
    (below : ∀ targets, Least tree.children targets (inner targets)) {rest : List (EditTree H)}
    {targets : List (EditTree H)} {row : List Nat} (costs : LeastRow rest targets row) :
    LeastRow (tree :: rest) targets (costsWith tree.weight tree.kind inner targets row) := by
  induction targets generalizing row with
  | nil =>
      obtain ⟨cost, rfl, least⟩ := costs
      exact ⟨_, rfl, least.delete_all tree⟩
  | cons target others ih =>
      obtain ⟨here, more, rfl, deleted, later⟩ := costs
      have remaining := ih later
      obtain ⟨next, further, rfl, least⟩ := later.first
      obtain ⟨after, beyond, row, inserted⟩ := remaining.first
      rw [row] at remaining
      rw [costsWith, row]
      exact ⟨_, _, rfl, Least.step deleted inserted (below target.children) least, remaining⟩

theorem costs_of_tree_least (tree : EditTree H) :
    ∀ (rest targets : List (EditTree H)) row, LeastRow rest targets row →
      LeastRow (tree :: rest) targets (costsOfTree tree targets row) := by
  induction tree using EditTree.tree_induction with
  | step kind weight children ih =>
      intro rest targets row costs
      rw [costsOfTree]
      exact costs_with_least (.node kind weight children)
        (fun inner => (costs_of_list_least ih inner).first_cost) costs

/-- The distance of the library is the least cost of a script. -/
theorem distance_least : LeastCost (distance (H := H)) := by
  intro a b
  exact (costs_of_list_least (fun tree _ => costs_of_tree_least tree) [b]).first_cost

end Edit
end Resemblance
