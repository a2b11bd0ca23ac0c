import Resemblance.Proofs.EditScript

/-!
The laws of a distance. Where the weight of a node depends on its kind only, a script costs at least
what it takes or adds in weight, and two scripts in a row can be replaced by one that costs no more
than both. A least cost is therefore a metric, if every node has a weight.
-/

namespace Resemblance

open EditTree (weights)

namespace Edit

variable {H : Type}

/-- Trees whose nodes have the weights of their kinds. -/
inductive Weighed (weigh : H → Nat) : List (EditTree H) → Prop
  | nil : Weighed weigh []
  | cons {kind : H} {children rest : List (EditTree H)} (below : Weighed weigh children)
      (later : Weighed weigh rest) : Weighed weigh (.node kind (weigh kind) children :: rest)

variable {weigh : H → Nat}

theorem Weighed.tail {tree : EditTree H} {rest : List (EditTree H)}
    (weighed : Weighed weigh (tree :: rest)) : Weighed weigh rest := by
  cases weighed with
  | cons below later => exact later

theorem Weighed.inside {tree : EditTree H} {rest : List (EditTree H)}
    (weighed : Weighed weigh (tree :: rest)) : Weighed weigh tree.children := by
  cases weighed with
  | cons below later => exact below

theorem Weighed.weight_eq {tree : EditTree H} {rest : List (EditTree H)}
    (weighed : Weighed weigh (tree :: rest)) :
    tree.weight = weigh tree.kind + weights tree.children := by
  cases weighed with
  | cons below later => rfl

theorem Weighed.tree_eq {tree target : EditTree H} {rest others : List (EditTree H)}
    (weighed : Weighed weigh (tree :: rest)) (weighed' : Weighed weigh (target :: others))
    (kind : tree.kind = target.kind) (children : tree.children = target.children) :
    tree = target := by
  cases weighed with
  | cons _ _ =>
      cases weighed' with
      | cons _ _ =>
          simp only [EditTree.kind, EditTree.children] at kind children
          rw [kind, children]

theorem Weighed.append_right {front rest : List (EditTree H)}
    (weighed : Weighed weigh (front ++ rest)) : Weighed weigh rest := by
  induction front with
  | nil => exact weighed
  | cons tree others ih => exact ih weighed.tail

theorem Script.weights_le {trees targets : List (EditTree H)} {cost : Nat}
    (script : Script trees targets cost) (weighed : Weighed weigh trees)
    (weighed' : Weighed weigh targets) : weights trees ≤ weights targets + cost := by
  induction script with
  | done => exact Nat.zero_le _
  | delete later ih =>
      have rest := ih weighed.tail weighed'
      rw [weights]
      omega
  | insert later ih =>
      have rest := ih weighed weighed'.tail
      rw [weights]
      omega
  | keep kind below later ihBelow ihLater =>
      have children := ihBelow weighed.inside weighed'.inside
      have rest := ihLater weighed.tail weighed'.tail
      rw [weights, weights, weighed.weight_eq, weighed'.weight_eq, kind]
      omega

theorem Script.weight_le {tree target : EditTree H} {rest others : List (EditTree H)} {cost : Nat}
    (below : Script tree.children target.children cost) (kind : tree.kind = target.kind)
    (weighed : Weighed weigh (tree :: rest)) (weighed' : Weighed weigh (target :: others)) :
    tree.weight ≤ target.weight + cost := by
  have children := below.weights_le weighed.inside weighed'.inside
  rw [weighed.weight_eq, weighed'.weight_eq, kind]
  omega

theorem Script.insert_all (front : List (EditTree H))
    {trees targets : List (EditTree H)} {cost : Nat}
    (script : Script trees targets cost) :
    Script trees (front ++ targets) (weights front + cost) := by
  induction front with
  | nil =>
      rw [weights, Nat.zero_add]
      exact script
  | cons target rest ih =>
      rw [weights, Nat.add_assoc]
      exact .insert ih

/-- What a script does with the first tree: it inserts some targets, then deletes the tree or keeps
it with the next target. -/
inductive Fate (tree : EditTree H) (rest : List (EditTree H)) :
    List (EditTree H) → Nat → Prop
  | deleted {targets : List (EditTree H)} {cost : Nat} (front : List (EditTree H))
      (later : Script rest targets cost) :
      Fate tree rest (front ++ targets) (weights front + (tree.weight + cost))
  | kept {target : EditTree H} {others : List (EditTree H)} {inner cost : Nat}
      (front : List (EditTree H)) (kind : tree.kind = target.kind)
      (below : Script tree.children target.children inner) (later : Script rest others cost) :
      Fate tree rest (front ++ target :: others) (weights front + (inner + cost))

theorem Fate.insert {tree target : EditTree H} {rest targets : List (EditTree H)} {cost : Nat}
    (fate : Fate tree rest targets cost) :
    Fate tree rest (target :: targets) (target.weight + cost) := by
  cases fate with
  | deleted front later =>
      have fate : Fate tree rest (target :: front ++ _) _ := .deleted (target :: front) later
      rwa [weights, Nat.add_assoc] at fate
  | kept front kind below later =>
      have fate := Fate.kept (target :: front) kind below later
      rwa [weights, Nat.add_assoc] at fate

theorem Script.fate {tree : EditTree H} {rest trees targets : List (EditTree H)} {cost : Nat}
    (script : Script trees targets cost) (first : trees = tree :: rest) :
    Fate tree rest targets cost := by
  induction script with
  | done => cases first
  | delete later ih =>
      cases first
      have fate : Fate tree rest ([] ++ _) _ := .deleted [] later
      rwa [weights, Nat.zero_add] at fate
  | insert later ih => exact (ih first).insert
  | keep kind below later ihBelow ihLater =>
      cases first
      have fate := Fate.kept [] kind below later
      rwa [weights, Nat.zero_add] at fate

/-- Two scripts in a row come to one that costs no more: what the first inserts and the second
deletes is left out, and what one keeps and the other deletes or inserts weighs no more than they
cost together. The induction is on the first script; the second is asked what it does with the first
tree. -/
theorem Script.compose {trees between targets : List (EditTree H)} {cost cost' : Nat}
    (script : Script trees between cost) (script' : Script between targets cost')
    (weighed : Weighed weigh trees) (weighed' : Weighed weigh between)
    (weighed'' : Weighed weigh targets) :
    ∃ total, total ≤ cost + cost' ∧ Script trees targets total := by
  induction script generalizing targets cost' with
  | done => exact ⟨cost', by omega, script'⟩
  | delete later ih =>
      obtain ⟨total, bounded, direct⟩ := ih script' weighed.tail weighed' weighed''
      exact ⟨_, by omega, .delete direct⟩
  | insert later ih =>
      cases script'.fate rfl with
      | deleted front later' =>
          -- What is inserted and deleted again was not needed.
          obtain ⟨total, bounded, direct⟩ :=
            ih later' weighed weighed'.tail weighed''.append_right
          exact ⟨_, by omega, direct.insert_all front⟩
      | kept front kind below later' =>
          -- It can be inserted as it is in the end, which adds no more than changing it costs.
          have right := weighed''.append_right
          obtain ⟨total, bounded, direct⟩ := ih later' weighed weighed'.tail right.tail
          have heavier := below.symm.weight_le kind.symm right weighed'
          exact ⟨_, by omega, (Script.insert direct).insert_all front⟩
  | keep kind below later ihBelow ihLater =>
      cases script'.fate rfl with
      | deleted front later' =>
          -- It can be deleted as it was at first.
          obtain ⟨total, bounded, direct⟩ :=
            ihLater later' weighed.tail weighed'.tail weighed''.append_right
          have lighter := below.weight_le kind weighed weighed'
          exact ⟨_, by omega, (Script.delete direct).insert_all front⟩
      | kept front kind' below' later' =>
          have right := weighed''.append_right
          obtain ⟨inner, children, deeper⟩ :=
            ihBelow below' weighed.inside weighed'.inside right.inside
          obtain ⟨total, bounded, direct⟩ := ihLater later' weighed.tail weighed'.tail right.tail
          exact ⟨_, by omega, (Script.keep (kind.trans kind') deeper direct).insert_all front⟩

theorem Script.refl : ∀ trees : List (EditTree H), Script trees trees 0
  | [] => .done
  | .node kind weight children :: rest =>
      have below : Script (EditTree.node kind weight children).children children 0 := refl children
      .keep rfl below (refl rest)

theorem Script.eq_of_free {trees targets : List (EditTree H)} {cost : Nat}
    (script : Script trees targets cost) (positive : ∀ kind, 0 < weigh kind)
    (weighed : Weighed weigh trees) (weighed' : Weighed weigh targets) (free : cost = 0) :
    trees = targets := by
  induction script with
  | done => rfl
  | @delete tree rest targets cost later ih =>
      have heavy := positive tree.kind
      rw [weighed.weight_eq] at free
      omega
  | @insert target trees rest cost later ih =>
      have heavy := positive target.kind
      rw [weighed'.weight_eq] at free
      omega
  | keep kind below later ihBelow ihLater =>
      have children := ihBelow weighed.inside weighed'.inside (by omega)
      have rest := ihLater weighed.tail weighed'.tail (by omega)
      rw [weighed.tree_eq weighed' kind children, rest]

section Least

variable {a b c : EditTree H} {diff : EditTree H → EditTree H → Nat}

theorem LeastCost.eq_zero_iff (least : LeastCost diff) (positive : ∀ kind, 0 < weigh kind)
    (weighed : Weighed weigh [a]) (weighed' : Weighed weigh [b]) : diff a b = 0 ↔ a = b := by
  constructor
  · intro free
    have equal := (least a b).reached.eq_of_free positive weighed weighed' free
    simpa using equal
  · rintro rfl
    exact Nat.le_zero.1 ((least a a).least 0 (Script.refl [a]))

theorem LeastCost.triangle (least : LeastCost diff) (weighed : Weighed weigh [a])
    (weighed' : Weighed weigh [b]) (weighed'' : Weighed weigh [c]) :
    diff a c ≤ diff a b + diff b c := by
  obtain ⟨total, bounded, direct⟩ :=
    (least a b).reached.compose (least b c).reached weighed weighed' weighed''
  exact Nat.le_trans ((least a c).least total direct) bounded

end Least

end Edit
end Resemblance
