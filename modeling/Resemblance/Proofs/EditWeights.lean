import Resemblance.Proofs.Comments
import Resemblance.Proofs.EditOutline

/-!
Edit distances under different weights. A script for two trees is a script for the same trees with
other weights, step by step; where no node weighs more than some factor as much, the script costs no
more than that factor as much. The least script for one kind of weights is therefore a bound for the
least script for the other, although the two need not be the same.
-/

namespace Resemblance

open EditTree (weights)

namespace Edit

variable {H : Type} {factor : Nat}

/-- The second trees are the first with other weights, each node at most `factor` times as heavy. -/
inductive Reweighed (factor : Nat) : List (EditTree H) → List (EditTree H) → Prop
  | nil : Reweighed factor [] []
  | cons {kind : H} {weight weight' : Nat} {children children' rest rest' : List (EditTree H)}
      (bounded : weight' ≤ factor * weight) (below : Reweighed factor children children')
      (later : Reweighed factor rest rest') :
      Reweighed factor (.node kind weight children :: rest) (.node kind weight' children' :: rest')

theorem Reweighed.weights_le {trees trees' : List (EditTree H)}
    (reweighed : Reweighed factor trees trees') :
    weights trees' ≤ factor * weights trees := by
  induction reweighed with
  | nil => exact Nat.zero_le _
  | cons bounded below later ihBelow ihLater =>
      simp only [weights, EditTree.weight, Nat.mul_add]
      omega

theorem Reweighed.step_le {tree tree' : EditTree H} {rest rest' : List (EditTree H)}
    {cost cost' : Nat}
    (reweighed : Reweighed factor (tree :: rest) (tree' :: rest'))
    (bounded : cost' ≤ factor * cost) :
    tree'.weight + cost' ≤ factor * (tree.weight + cost) := by
  cases reweighed with
  | cons own below later =>
      have inside := below.weights_le
      simp only [EditTree.weight, Nat.mul_add]
      omega

/-- The same steps under other weights. The induction is on the script; what it deletes, inserts or
keeps stands at the same place among the reweighed trees. -/
theorem Script.reweigh {trees targets trees' targets' : List (EditTree H)} {cost : Nat}
    (script : Script trees targets cost) (first : Reweighed factor trees trees')
    (second : Reweighed factor targets targets') :
    ∃ cost', cost' ≤ factor * cost ∧ Script trees' targets' cost' := by
  induction script generalizing trees' targets' with
  | done =>
      cases first
      cases second
      exact ⟨0, Nat.zero_le _, .done⟩
  | delete later ih =>
      cases first with
      | cons own below rest =>
          obtain ⟨cost', bounded, moved⟩ := ih rest second
          exact ⟨_, (Reweighed.cons own below rest).step_le bounded, .delete moved⟩
  | insert later ih =>
      cases second with
      | cons own below rest =>
          obtain ⟨cost', bounded, moved⟩ := ih first rest
          exact ⟨_, (Reweighed.cons own below rest).step_le bounded, .insert moved⟩
  | keep kind below later ihBelow ihLater =>
      cases first with
      | cons own children rest =>
          cases second with
          | cons own' children' rest' =>
              obtain ⟨inner, boundedBelow, deeper⟩ := ihBelow children children'
              obtain ⟨cost', bounded, moved⟩ := ihLater rest rest'
              refine ⟨inner + cost', ?_, .keep kind deeper moved⟩
              rw [Nat.mul_add]
              exact Nat.add_le_add boundedBelow bounded

theorem LeastCost.reweighed_le {diff : EditTree H → EditTree H → Nat} (least : LeastCost diff)
    {a b a' b' : EditTree H} (first : Reweighed factor [a] [a'])
    (second : Reweighed factor [b] [b']) :
    diff a' b' ≤ factor * diff a b := by
  obtain ⟨cost, bounded, script⟩ := (least a b).reached.reweigh first second
  exact Nat.le_trans ((least a' b').least cost script) bounded

end Edit

namespace ShapeTree

variable {H : Type} {factor : Nat} {weigh weigh' : String → Nat}

theorem edit_trees_reweighed (hasher : Hasher H) :
    ∀ trees : List ShapeTree,
      (∀ tree ∈ trees, ∀ kind ∈ tree.kinds, weigh' kind ≤ factor * weigh kind) →
        Edit.Reweighed factor (trees.map (editTree hasher weigh))
          (trees.map (editTree hasher weigh'))
  | [], _ => .nil
  | node kind text children :: rest, bounded => by
      have own := bounded _ List.mem_cons_self kind (kind_mem_kinds kind text children)
      have below := edit_trees_reweighed hasher children fun child member inner inside =>
        bounded _ List.mem_cons_self inner (mem_kinds_of_child member inside)
      have later := edit_trees_reweighed hasher rest fun tree member =>
        bounded tree (List.mem_cons_of_mem _ member)
      rw [List.map_cons, List.map_cons, edit_tree_node, edit_tree_node]
      exact .cons own below later

theorem edit_tree_reweighed (hasher : Hasher H) (tree : ShapeTree)
    (bounded : ∀ kind ∈ tree.kinds, weigh' kind ≤ factor * weigh kind) :
    Edit.Reweighed factor [tree.editTree hasher weigh] [tree.editTree hasher weigh'] :=
  edit_trees_reweighed hasher [tree] fun _ member => List.mem_singleton.1 member ▸ bounded

end ShapeTree

/-- The weighted edit distance lies between the plain one and three times the plain one, and is the
plain one where no kind of the two trees weighs more than one. Nothing is asked of the digests. -/
theorem weighted_distance_within_three {H : Type} [BEq H] {diff : EditTree H → EditTree H → Nat}
    (least : Edit.LeastCost diff) (hasher : Hasher H) {a b : ShapeInput}
    (editable : (a.profile hasher).editable = true)
    (editable' : (b.profile hasher).editable = true) :
    let scores := ShapeScores.compareWith diff (a.profile hasher) (b.profile hasher)
    ∃ plain weighted, scores.editDistance = some plain ∧
    scores.weightedEditDistance = some weighted ∧
      plain ≤ weighted ∧ weighted ≤ 3 * plain ∧
      ((∀ kind, kind ∈ a.reduced.kinds ∨ kind ∈ b.reduced.kinds → ¬ 1 < Edit.kindWeight kind) →
        weighted = plain) ∧
      (weighted = 0 ↔ plain = 0) := by
  intro scores
  have trees := a.profile_edit_trees hasher ((a.profile_editable_iff hasher).1 editable)
  have trees' := b.profile_edit_trees hasher ((b.profile_editable_iff hasher).1 editable')
  have lighter : ∀ kind, Edit.unitWeight kind ≤ 1 * Edit.kindWeight kind := fun kind => by
    rw [Nat.one_mul]
    exact Edit.kind_weight_pos kind
  have heavier : ∀ kind, Edit.kindWeight kind ≤ 3 * Edit.unitWeight kind := Edit.kind_weight_le
  have below := least.reweighed_le (a.reduced.edit_tree_reweighed hasher fun kind _ => lighter kind)
    (b.reduced.edit_tree_reweighed hasher fun kind _ => lighter kind)
  have above := least.reweighed_le (a.reduced.edit_tree_reweighed hasher fun kind _ => heavier kind)
    (b.reduced.edit_tree_reweighed hasher fun kind _ => heavier kind)
  rw [Nat.one_mul] at below
  refine ⟨_, _, ShapeScores.edit_distance_eq trees.1 trees'.1,
    ShapeScores.edit_distance_eq trees.2 trees'.2, below, above, ?_, by omega⟩
  intro light
  have equal : ∀ kind, kind ∈ a.reduced.kinds ∨ kind ∈ b.reduced.kinds →
      Edit.kindWeight kind ≤ 1 * Edit.unitWeight kind :=
        fun kind known => Nat.le_of_not_gt (light kind known)
  have above' := least.reweighed_le
    (a.reduced.edit_tree_reweighed hasher fun kind known => equal kind (.inl known))
    (b.reduced.edit_tree_reweighed hasher fun kind known => equal kind (.inr known))
  rw [Nat.one_mul] at above'
  exact Nat.le_antisymm above' below

/-- A function definition in the place of a name, with the name inside of it. -/
theorem defined_name_weighs_more :
    let node := fun kind => Node.mk kind true false false false 0 1
    let name : ShapeInput :=
      ⟨['x'], .node (node "module") [.node (node "identifier") []], 2⟩
    let definition : ShapeInput :=
      ⟨['x'], .node (node "module")
       [.node (node "function_definition") [.node (node "identifier") []]], 10⟩
    let scores := ShapeScores.compare (name.profile ShapeTree.hasher)
      (definition.profile ShapeTree.hasher)
    Edit.LeastCost (Edit.distance (H := ShapeTree)) ∧
      (name.profile ShapeTree.hasher).editable = true ∧
      (definition.profile ShapeTree.hasher).editable = true ∧
      scores.editDistance = some 3 ∧ scores.weightedEditDistance = some 5 ∧
      ∃ plain weighted, scores.editDistance = some plain ∧
        scores.weightedEditDistance = some weighted ∧
        plain ≤ weighted ∧ weighted ≤ 3 * plain := by
  intro node name definition scores
  have least : Edit.LeastCost (Edit.distance (H := ShapeTree)) := Edit.distance_least
  have editable : (name.profile ShapeTree.hasher).editable = true :=
    (name.profile_editable_iff _).2 (by decide)
  have editable' : (definition.profile ShapeTree.hasher).editable = true :=
    (definition.profile_editable_iff _).2 (by decide)
  obtain ⟨plain, weighted, found, found', below, above, -⟩ :=
    weighted_distance_within_three least ShapeTree.hasher editable editable'
  have values : scores.editDistance = some 3 ∧
      scores.weightedEditDistance = some 5 := by decide +kernel
  exact ⟨least, editable, editable', values.1, values.2, plain, weighted, found,
    found', below, above⟩

end Resemblance
