import Resemblance.Proofs.Digests
import Resemblance.Proofs.EditMetric
import Resemblance.Proofs.Tally
import Resemblance.ShapeScores

/-!
Edit distances of shapes. The edit trees of a shape are made of the kinds of its tree and leave out
the texts, so that their distances are metrics of the outlines: of ordered trees of kinds.
-/

namespace Resemblance

namespace ShapeTree

variable {H : Type}

def outline (tree : ShapeTree) : ShapeTree :=
  fold (fun kind _ children => node kind none children) tree

def editTree (hasher : Hasher H) (weigh : String → Nat) (tree : ShapeTree) : EditTree H :=
  fold (fun kind _ children => .node (hasher.ofKind kind) (weigh kind) children) tree

theorem outline_node (kind : String) (text : Option String) (children : List ShapeTree) :
    (node kind text children).outline = node kind none (children.map outline) := by
  rw [outline, fold, folds_eq_map]
  rfl

theorem edit_tree_node (hasher : Hasher H) (weigh : String → Nat) (kind : String)
    (text : Option String) (children : List ShapeTree) :
    (node kind text children).editTree hasher weigh =
      .node (hasher.ofKind kind) (weigh kind) (children.map (editTree hasher weigh)) := by
  rw [editTree, fold, folds_eq_map]
  rfl

theorem mem_labels_among {label : String × Option String} {trees : List ShapeTree} :
    label ∈ labelsAmong trees ↔ ∃ tree ∈ trees, label ∈ tree.labels := by
  induction trees with
  | nil => simp [labelsAmong]
  | cons tree rest ih => simp [labelsAmong, ih]

theorem kind_mem_kinds (kind : String) (text : Option String) (children : List ShapeTree) :
    kind ∈ (node kind text children).kinds := by
  simp [kinds, labels]

theorem mem_kinds_of_child {kind own : String} {text : Option String} {children : List ShapeTree}
    {child : ShapeTree} (member : child ∈ children) (inside : kind ∈ child.kinds) :
    kind ∈ (node own text children).kinds := by
  obtain ⟨label, listed, rfl⟩ := List.mem_map.1 inside
  rw [kinds, labels, List.map_cons, List.mem_cons]
  exact Or.inr (List.mem_map_of_mem (mem_labels_among.2 ⟨child, member, listed⟩))

theorem edit_tree_outline (hasher : Hasher H) (weigh : String → Nat) (tree : ShapeTree) :
    tree.outline.editTree hasher weigh = tree.editTree hasher weigh := by
  induction tree using tree_induction with
  | step kind text children ih =>
      rw [outline_node, edit_tree_node, edit_tree_node, List.map_map]
      congr 1
      exact List.map_congr_left ih

end ShapeTree

variable {H : Type}

def Hasher.TellsApart (hasher : Hasher H) (kinds : String → Prop) : Prop :=
  ∀ kind kind', kinds kind → kinds kind' → hasher.ofKind kind = hasher.ofKind kind' → kind = kind'

namespace Hasher.TellsApart

open ShapeTree

variable {hasher : Hasher H} {kinds : String → Prop}

/-- An edit tree shows the outline of its tree, and nothing else. -/
theorem edit_tree_eq_iff (apart : hasher.TellsApart kinds) (weigh : String → Nat)
    {tree other : ShapeTree} (known : ∀ kind ∈ tree.kinds, kinds kind)
    (known' : ∀ kind ∈ other.kinds, kinds kind) :
    tree.editTree hasher weigh = other.editTree hasher weigh ↔ tree.outline = other.outline := by
  constructor
  · intro equal
    induction tree using tree_induction generalizing other with
    | step kind text children ih =>
        cases other with
        | node kind' text' children' =>
            rw [edit_tree_node, edit_tree_node, EditTree.node.injEq] at equal
            obtain ⟨digests, -, below⟩ := equal
            have same := apart kind kind' (known kind (kind_mem_kinds kind text children))
              (known' kind' (kind_mem_kinds kind' text' children')) digests
            have outlines : children.map outline = children'.map outline := by
              refine map_eq_of_map_eq ?_ below
              intro child member child' member'
              exact ih child member
                (fun inner inside => known inner (mem_kinds_of_child member inside))
                (fun inner inside => known' inner (mem_kinds_of_child member' inside))
            rw [outline_node, outline_node, same, outlines]
  · intro equal
    rw [← edit_tree_outline, equal, edit_tree_outline]

theorem exists_weights (apart : hasher.TellsApart kinds) {weigh : String → Nat}
    (positive : ∀ kind, 0 < weigh kind) :
    ∃ weights : H → Nat, (∀ kind, kinds kind → weights (hasher.ofKind kind) = weigh kind) ∧
      ∀ digest, 0 < weights digest := by
  classical
  refine ⟨fun digest =>
    if found : ∃ kind, kinds kind ∧ hasher.ofKind kind = digest then weigh found.choose else 1,
    ?_, ?_⟩
  · intro kind known
    have found : ∃ kind', kinds kind' ∧ hasher.ofKind kind' = hasher.ofKind kind :=
      ⟨kind, known, rfl⟩
    obtain ⟨listed, equal⟩ := found.choose_spec
    dsimp only
    rw [dif_pos found, apart _ _ listed known equal]
  · intro digest
    dsimp only
    split
    next found => exact positive _
    next unknown => exact Nat.one_pos

end Hasher.TellsApart

namespace ShapeTree

theorem edit_trees_weighed {hasher : Hasher H} {weigh : String → Nat} {weights : H → Nat} :
    ∀ trees : List ShapeTree,
      (∀ tree ∈ trees, ∀ kind ∈ tree.kinds, weights (hasher.ofKind kind) = weigh kind) →
        Edit.Weighed weights (trees.map (editTree hasher weigh))
  | [], _ => .nil
  | node kind text children :: rest, known => by
      have own := known _ List.mem_cons_self kind (kind_mem_kinds kind text children)
      have below := edit_trees_weighed children fun child member inner inside =>
        known _ List.mem_cons_self inner (mem_kinds_of_child member inside)
      have later := edit_trees_weighed rest fun tree member =>
        known tree (List.mem_cons_of_mem _ member)
      rw [List.map_cons, edit_tree_node, ← own]
      exact .cons below later

end ShapeTree

theorem Edit.of_shape_root (hasher : Hasher H) (weigh : String → Nat) (source : List Char)
    (tree : SyntaxTree) :
    (Edit.ofShape hasher weigh (Shape.ofTree source tree)).map WeighedTree.root =
      some ((ShapeTree.ofTree source tree).editTree hasher weigh) := by
  have cells := Shape.bottom_up_eq_folds
    (fun kind _ children => EditTree.node (hasher.ofKind kind) (weigh kind) children) source tree
  have first : ∃ rest, (ShapeTree.ofTree source tree).subtrees =
      ShapeTree.ofTree source tree :: rest := by
    cases ShapeTree.ofTree source tree with
    | node kind text children =>
        exact ⟨ShapeTree.subtreesAmong children, by rw [ShapeTree.subtrees]⟩
  obtain ⟨rest, subtrees⟩ := first
  rw [subtrees, List.map_cons] at cells
  rw [Edit.ofShape, Option.map_map, ← Array.getElem?_toList, cells]
  rfl

/-- A source with its parse tree, and the limit beyond which its shape has no edit trees. -/
structure ShapeInput where
  source : List Char
  tree : SyntaxTree
  limit : Nat

namespace ShapeInput

def reduced (input : ShapeInput) : ShapeTree :=
  ShapeTree.ofTree input.source input.tree

def profile [BEq H] (hasher : Hasher H) (input : ShapeInput) : ShapeProfile H :=
  .ofShapeWith hasher input.limit (Shape.ofTree input.source input.tree)

variable [BEq H]

theorem within_iff (input : ShapeInput) :
    (decide (0 < input.limit) &&
        decide ((Shape.ofTree input.source input.tree).size ≤ input.limit)) = true ↔
      0 < input.limit ∧ input.reduced.size ≤ input.limit := by
  rw [reduced, ← Shape.of_tree_size, Bool.and_eq_true, decide_eq_true_eq, decide_eq_true_eq]

theorem profile_edit_trees (hasher : Hasher H) {input : ShapeInput}
    (within : 0 < input.limit ∧ input.reduced.size ≤ input.limit) :
    (input.profile hasher).editTree.map WeighedTree.root =
        some (input.reduced.editTree hasher Edit.unitWeight) ∧
      (input.profile hasher).weightedEditTree.map WeighedTree.root =
        some (input.reduced.editTree hasher Edit.kindWeight) := by
  rw [profile, ShapeProfile.ofShapeWith]
  dsimp only
  rw [if_pos (input.within_iff.2 within), if_pos (input.within_iff.2 within)]
  exact ⟨Edit.of_shape_root _ _ _ _, Edit.of_shape_root _ _ _ _⟩

theorem profile_editable_iff (hasher : Hasher H) (input : ShapeInput) :
    (input.profile hasher).editable = true ↔
      0 < input.limit ∧ input.reduced.size ≤ input.limit := by
  constructor
  · intro editable
    by_contra beyond
    rw [ShapeProfile.editable, profile, ShapeProfile.ofShapeWith] at editable
    dsimp only at editable
    rw [if_neg fun within => beyond (input.within_iff.1 within)] at editable
    cases editable
  · intro within
    rw [ShapeProfile.editable, ← Option.isSome_map, (profile_edit_trees hasher within).1]
    rfl

end ShapeInput

theorem ShapeScores.edit_distance_eq {diff : EditTree H → EditTree H → Nat}
    {own other : Option (WeighedTree H)} {tree target : EditTree H}
    (built : own.map WeighedTree.root = some tree)
    (built' : other.map WeighedTree.root = some target) :
    (edit diff own other).map Prod.fst = some (diff tree target) := by
  obtain ⟨weighed, rfl, rfl⟩ := Option.map_eq_some_iff.1 built
  obtain ⟨weighed', rfl, rfl⟩ := Option.map_eq_some_iff.1 built'
  rfl

theorem Edit.kind_weight_pos (kind : String) : 0 < Edit.kindWeight kind := by
  rw [Edit.kindWeight]
  split
  · decide
  · split
    · decide
    · decide

theorem Edit.kind_weight_le (kind : String) : Edit.kindWeight kind ≤ 3 := by
  unfold Edit.kindWeight
  split
  · exact Nat.le_refl 3
  · split <;> decide

/-- A score that is a distance on a domain: it is there for any two members, zero exactly for those
that count as the same, the same in both directions, and not greater than on the way by a third
member. -/
structure MetricOn {α : Type} (domain : α → Prop) (same : α → α → Prop)
    (score : α → α → Option Nat) : Prop where
  zero : ∀ a b, domain a → domain b → (score a b = some 0 ↔ same a b)
  comm : ∀ a b, domain a → domain b → score a b = score b a
  triangle : ∀ a b c, domain a → domain b → domain c →
    ∃ direct first second, score a c = some direct ∧ score a b = some first ∧
      score b c = some second ∧ direct ≤ first + second

theorem Edit.LeastCost.metric_on {diff : EditTree H → EditTree H → Nat} (least : LeastCost diff)
    {hasher : Hasher H} {kinds : String → Prop} (apart : hasher.TellsApart kinds)
    {weigh : String → Nat} (positive : ∀ kind, 0 < weigh kind) {domain : ShapeInput → Prop}
    (known : ∀ input, domain input → ∀ kind ∈ input.reduced.kinds, kinds kind)
    {score : ShapeInput → ShapeInput → Option Nat}
    (found : ∀ a b, domain a → domain b → score a b =
      some (diff (a.reduced.editTree hasher weigh) (b.reduced.editTree hasher weigh))) :
    MetricOn domain (fun a b => a.reduced.outline = b.reduced.outline) score := by
  obtain ⟨weights, agree, heavy⟩ := apart.exists_weights positive
  have weighed : ∀ input, domain input →
      Weighed weights [input.reduced.editTree hasher weigh] := by
    intro input inside
    apply ShapeTree.edit_trees_weighed [input.reduced]
    rintro tree member kind listed
    obtain rfl := List.mem_singleton.1 member
    exact agree kind (known input inside kind listed)
  refine ⟨?_, ?_, ?_⟩
  · intro a b inside inside'
    rw [found a b inside inside', Option.some.injEq,
      least.eq_zero_iff heavy (weighed a inside) (weighed b inside')]
    exact apart.edit_tree_eq_iff weigh (known a inside) (known b inside')
  · intro a b inside inside'
    rw [found a b inside inside', found b a inside' inside, least.comm]
  · intro a b c inside inside' inside''
    exact ⟨_, _, _, found a c inside inside'', found a b inside inside', found b c inside' inside'',
      least.triangle (weighed a inside) (weighed b inside') (weighed c inside'')⟩

/-- Both edit distances of two profiles are metrics on the profiles that have edit trees, for trees
that count as the same where their outlines are equal. Nothing is asked of the digests but that they
tell the kinds of the trees apart. -/
theorem edit_distances_are_metrics [BEq H] {diff : EditTree H → EditTree H → Nat}
    (least : Edit.LeastCost diff) {hasher : Hasher H} {kinds : String → Prop}
    (apart : hasher.TellsApart kinds) :
    let compare := fun a b : ShapeInput =>
      ShapeScores.compareWith diff (a.profile hasher) (b.profile hasher)
    let domain := fun input : ShapeInput =>
      (input.profile hasher).editable = true ∧ ∀ kind ∈ input.reduced.kinds, kinds kind
    let same := fun a b : ShapeInput => a.reduced.outline = b.reduced.outline
    MetricOn domain same (fun a b => (compare a b).editDistance) ∧
      MetricOn domain same (fun a b => (compare a b).weightedEditDistance) := by
  intro compare domain same
  have trees := fun input (inside : domain input) =>
    input.profile_edit_trees hasher ((input.profile_editable_iff hasher).1 inside.1)
  constructor
  · apply least.metric_on apart (fun _ => Nat.one_pos) fun _ inside => inside.2
    intro a b inside inside'
    exact ShapeScores.edit_distance_eq (trees a inside).1 (trees b inside').1
  · apply least.metric_on apart Edit.kind_weight_pos fun _ inside => inside.2
    intro a b inside inside'
    exact ShapeScores.edit_distance_eq (trees a inside).2 (trees b inside').2

/-- A name and a longer name in its place. -/
theorem renamed_name_at_no_distance :
    let node := fun kind stop => Node.mk kind true false false false 0 stop
    let short : ShapeInput := ⟨['x'], .node (node "module" 1) [.node (node "identifier" 1) []], 10⟩
    let long : ShapeInput :=
      ⟨['y', 'z'], .node (node "module" 2) [.node (node "identifier" 2) []], 2⟩
    let scores := ShapeScores.compare (short.profile ShapeTree.hasher)
      (long.profile ShapeTree.hasher)
    Edit.LeastCost (Edit.distance (H := ShapeTree)) ∧
      ShapeTree.hasher.TellsApart (fun _ => True) ∧ short.reduced ≠ long.reduced ∧
      scores.editDistance = some 0 ∧ scores.weightedEditDistance = some 0 := by
  intro node short long scores
  have least : Edit.LeastCost (Edit.distance (H := ShapeTree)) := Edit.distance_least
  have apart : ShapeTree.hasher.TellsApart (fun _ => True) := by
    intro kind kind' _ _ equal
    exact (ShapeTree.node.inj equal).1
  have editable : (short.profile ShapeTree.hasher).editable = true :=
    (short.profile_editable_iff _).2 (by decide)
  have editable' : (long.profile ShapeTree.hasher).editable = true :=
    (long.profile_editable_iff _).2 (by decide)
  have outlines : short.reduced.outline = long.reduced.outline := rfl
  obtain ⟨unit, weighted⟩ := edit_distances_are_metrics least apart
  have known := fun (input : ShapeInput) kind (_ : kind ∈ input.reduced.kinds) => trivial
  refine ⟨least, apart, ne_of_beq_false (by decide), ?_, ?_⟩
  · exact (unit.zero short long ⟨editable, known short⟩ ⟨editable', known long⟩).2 outlines
  · exact (weighted.zero short long ⟨editable, known short⟩ ⟨editable', known long⟩).2 outlines

end Resemblance
