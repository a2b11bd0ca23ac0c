import Resemblance.Proofs.Comments
import Resemblance.Proofs.EditOutline
import Resemblance.Proofs.HistogramDistance
import Resemblance.Proofs.ShapeMetrics

/-!
Lower bounds of the edit distance. A script accounts for the kinds of both trees: what it takes away
and what it adds is the difference between them, and where every node weighs one, each of these
nodes costs one. Deleting and inserting subtrees changes the height by no more than their weight.
-/

namespace Resemblance

open EditTree (weights)

namespace EditTree

variable {H : Type}

mutual

def kinds : EditTree H → List H
  | node kind _ children => kind :: kindsAmong children

def kindsAmong : List (EditTree H) → List H
  | [] => []
  | tree :: rest => kinds tree ++ kindsAmong rest

end

mutual

def height : EditTree H → Nat
  | node _ _ children => 1 + heights children

def heights : List (EditTree H) → Nat
  | [] => 0
  | tree :: rest => max (height tree) (heights rest)

end

theorem kinds_eq (tree : EditTree H) : tree.kinds = tree.kind :: kindsAmong tree.children := by
  cases tree
  rw [kinds, kind, children]

theorem height_eq (tree : EditTree H) : tree.height = 1 + heights tree.children := by
  cases tree
  rw [height, children]

end EditTree

namespace Edit

open EditTree (kindsAmong heights)

variable {H : Type} {trees targets : List (EditTree H)} {cost : Nat}

theorem Weighed.kinds_length (weighed : Weighed (fun _ => 1) trees) :
    (kindsAmong trees).length = weights trees := by
  induction weighed with
  | nil => rfl
  | cons below later ihBelow ihLater =>
      rw [kindsAmong, EditTree.kinds, weights, EditTree.weight, List.length_append,
        List.length_cons, ihBelow, ihLater, Nat.add_comm 1]

theorem Weighed.first_kinds_length {tree : EditTree H} {rest : List (EditTree H)}
    (weighed : Weighed (fun _ => 1) (tree :: rest)) : tree.kinds.length = tree.weight := by
  rw [EditTree.kinds_eq, List.length_cons, weighed.inside.kinds_length, weighed.weight_eq,
    Nat.add_comm]

theorem Weighed.heights_le (weighed : Weighed (fun _ => 1) trees) :
    heights trees ≤ weights trees := by
  induction weighed with
  | nil => exact Nat.le_refl _
  | cons below later ihBelow ihLater =>
      rw [heights, EditTree.height, weights, EditTree.weight]
      omega

theorem Weighed.height_le {tree : EditTree H} {rest : List (EditTree H)}
    (weighed : Weighed (fun _ => 1) (tree :: rest)) : tree.height ≤ tree.weight := by
  have inside := weighed.inside.heights_le
  rw [EditTree.height_eq, weighed.weight_eq]
  omega

/-- The nodes that a script takes away and those it adds make up for all difference between the
kinds of both lists, and there are as many of them as the script costs. -/
theorem Script.accounts [BEq H] (script : Script trees targets cost)
    (weighed : Weighed (fun _ => 1) trees) (weighed' : Weighed (fun _ => 1) targets) :
    ∃ removed added : List H, removed.length + added.length = cost ∧
      ∀ kind, (kindsAmong trees).count kind + added.count kind =
        (kindsAmong targets).count kind + removed.count kind := by
  induction script with
  | done => exact ⟨[], [], rfl, fun _ => rfl⟩
  | @delete tree rest targets cost later ih =>
      obtain ⟨removed, added, size, balance⟩ := ih weighed.tail weighed'
      refine ⟨tree.kinds ++ removed, added, ?_, ?_⟩
      · rw [List.length_append, weighed.first_kinds_length]
        omega
      · intro kind
        have equal := balance kind
        simp only [kindsAmong, List.count_append]
        omega
  | @insert target trees rest cost later ih =>
      obtain ⟨removed, added, size, balance⟩ := ih weighed weighed'.tail
      refine ⟨removed, target.kinds ++ added, ?_, ?_⟩
      · rw [List.length_append, weighed'.first_kinds_length]
        omega
      · intro kind
        have equal := balance kind
        simp only [kindsAmong, List.count_append]
        omega
  | keep kind below later ihBelow ihLater =>
      obtain ⟨removed, added, size, balance⟩ := ihBelow weighed.inside weighed'.inside
      obtain ⟨removed', added', size', balance'⟩ := ihLater weighed.tail weighed'.tail
      refine ⟨removed ++ removed', added ++ added', ?_, ?_⟩
      · simp only [List.length_append]
        omega
      · intro other
        have equal := balance other
        have equal' := balance' other
        simp only [kindsAmong, EditTree.kinds_eq, kind, List.count_append, List.count_cons]
        omega

theorem Script.heights_le (script : Script trees targets cost)
    (weighed : Weighed (fun _ => 1) trees) (weighed' : Weighed (fun _ => 1) targets) :
    heights trees ≤ heights targets + cost := by
  induction script with
  | done => exact Nat.le_refl _
  | delete later ih =>
      have rest := ih weighed.tail weighed'
      have first := weighed.height_le
      rw [heights]
      omega
  | insert later ih =>
      have rest := ih weighed weighed'.tail
      rw [heights]
      omega
  | keep kind below later ihBelow ihLater =>
      have inside := ihBelow weighed.inside weighed'.inside
      have rest := ihLater weighed.tail weighed'.tail
      rw [heights, heights, EditTree.height_eq, EditTree.height_eq]
      omega

theorem sum_count_le_length [BEq H] [LawfulBEq H] {α : Type} {digest : α → H} {different : Finset α}
    (apart : ∀ x ∈ different, ∀ y ∈ different, digest x = digest y → x = y) (things : List H) :
    ∑ x ∈ different, things.count (digest x) ≤ things.length := by
  induction things with
  | nil => simp
  | cons thing rest ih =>
      have once : ∑ x ∈ different, (if thing == digest x then 1 else 0) ≤ 1 := by
        rw [Finset.sum_boole, Nat.cast_id, Finset.card_le_one]
        intro x listed y listed'
        simp only [Finset.mem_filter, beq_iff_eq] at listed listed'
        exact apart x listed.1 y listed'.1 (listed.2.symm.trans listed'.2)
      simp only [List.count_cons, Finset.sum_add_distrib, List.length_cons]
      omega

/-- The differences between two counts, summed over different kinds, are paid for. -/
theorem Script.sum_difference_le [BEq H] [LawfulBEq H] (script : Script trees targets cost)
    (weighed : Weighed (fun _ => 1) trees) (weighed' : Weighed (fun _ => 1) targets) {α : Type}
    (digest : α → H) {different : Finset α}
    (apart : ∀ x ∈ different, ∀ y ∈ different, digest x = digest y → x = y) :
    ∑ x ∈ different, difference ((kindsAmong trees).count (digest x))
      ((kindsAmong targets).count (digest x)) ≤ cost := by
  obtain ⟨removed, added, size, balance⟩ := script.accounts weighed weighed'
  calc
    _ ≤ ∑ x ∈ different, (removed.count (digest x) + added.count (digest x)) := by
      apply Finset.sum_le_sum
      intro x _
      have equal := balance (digest x)
      rw [difference]
      omega
    _ = ∑ x ∈ different, removed.count (digest x) + ∑ x ∈ different, added.count (digest x) :=
      Finset.sum_add_distrib
    _ ≤ removed.length + added.length :=
      Nat.add_le_add (sum_count_le_length apart removed) (sum_count_le_length apart added)
    _ = cost := size

end Edit

namespace ShapeTree

variable {H : Type} {hasher : Hasher H} {weigh : String → Nat}

theorem kinds_node (kind : String) (text : Option String) (children : List ShapeTree) :
    (node kind text children).kinds = kind :: children.flatMap kinds := by
  have among : ∀ trees : List ShapeTree,
      (labelsAmong trees).map Prod.fst = trees.flatMap kinds := by
    intro trees
    induction trees with
    | nil => rfl
    | cons tree rest ih => rw [labelsAmong, List.map_append, ih, List.flatMap_cons, kinds]
  rw [kinds, labels, List.map_cons, among]

theorem edit_trees_kinds {trees : List ShapeTree}
    (first : ∀ tree ∈ trees, (tree.editTree hasher weigh).kinds = tree.kinds.map hasher.ofKind) :
    EditTree.kindsAmong (trees.map (editTree hasher weigh)) =
      (trees.flatMap kinds).map hasher.ofKind := by
  induction trees with
  | nil => rfl
  | cons tree rest ih =>
      rw [List.map_cons, EditTree.kindsAmong, first tree List.mem_cons_self,
        ih fun other member => first other (List.mem_cons_of_mem _ member), List.flatMap_cons,
        List.map_append]

theorem edit_tree_kinds (tree : ShapeTree) :
    (tree.editTree hasher weigh).kinds = tree.kinds.map hasher.ofKind := by
  induction tree using tree_induction with
  | step kind text children ih =>
      rw [edit_tree_node, EditTree.kinds, edit_trees_kinds ih, kinds_node, List.map_cons]

theorem edit_trees_height {trees : List ShapeTree}
    (first : ∀ tree ∈ trees, (tree.editTree hasher weigh).height = tree.height) :
    EditTree.heights (trees.map (editTree hasher weigh)) = heights trees := by
  induction trees with
  | nil => rfl
  | cons tree rest ih =>
      rw [List.map_cons, EditTree.heights, heights, first tree List.mem_cons_self,
        ih fun other member => first other (List.mem_cons_of_mem _ member)]

theorem edit_tree_height (tree : ShapeTree) :
    (tree.editTree hasher weigh).height = tree.height := by
  induction tree using tree_induction with
  | step kind text children ih =>
      rw [edit_tree_node, EditTree.height, edit_trees_height ih, height]

end ShapeTree

theorem Shape.foldl_kinds {α : Type} (step : α → String → α) (start : α) (source : List Char)
    (tree : SyntaxTree) :
    (Shape.ofTree source tree).nodes.foldl (fun state node => step state node.kind) start =
      (ShapeTree.ofTree source tree).kinds.foldl step start := by
  rw [← (of_tree_represents source tree).kinds_eq, List.foldl_map, Array.foldl_toList]

theorem Edit.of_shape_eq {H : Type} (hasher : Hasher H) (weigh : String → Nat) (source : List Char)
    (tree : SyntaxTree) :
    Edit.ofShape hasher weigh (Shape.ofTree source tree) =
      some
        { root := (ShapeTree.ofTree source tree).editTree hasher weigh
          weight := (ShapeTree.ofTree source tree).kinds.foldl
            (fun total kind => total + weigh kind) 0 } := by
  have root := of_shape_root hasher weigh source tree
  rw [ofShape, Option.map_map] at root
  rw [ofShape, Shape.foldl_kinds fun total kind => total + weigh kind]
  obtain ⟨found, there, rfl⟩ := Option.map_eq_some_iff.1 root
  rw [there]
  rfl

open ShapeTree

variable {H : Type} [BEq H] [LawfulBEq H]

theorem Hasher.TellsApart.count_eq {hasher : Hasher H} {known : String → Prop}
    (apart : hasher.TellsApart known) {listed : List String} (all : ∀ kind ∈ listed, known kind)
    {kind : String} (own : known kind) :
    (listed.map hasher.ofKind).count (hasher.ofKind kind) = listed.count kind := by
  rw [List.count, List.countP_map, List.count]
  apply List.countP_congr
  intro other member
  simp only [Function.comp_apply, beq_iff_eq]
  exact ⟨apart other kind (all other member) own, fun equal => by rw [equal]⟩

section Kinds

variable {hasher : Hasher H} {weigh : String → Nat} {tree target : ShapeTree}

end Kinds

end Resemblance
