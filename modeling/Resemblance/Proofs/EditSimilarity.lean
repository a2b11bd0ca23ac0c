import Resemblance.Proofs.EditAssembly
import Resemblance.Proofs.ScoreRange

/-!
Edit distances against the joint weight of both trees. Replacing one tree by the other costs that
weight, and there is no other script where the kinds of the roots differ; where they are equal,
keeping the roots is cheaper. What the distance leaves of the joint weight is therefore in the unit
interval before it is held there.
-/

namespace Resemblance

open EditTree (weights)

namespace Edit

variable {H : Type}

theorem Script.replace (trees targets : List (EditTree H)) :
    Script trees targets (weights trees + weights targets) := by
  induction trees with
  | nil =>
      have inserted := Script.insert_all targets (Script.done (H := H))
      rwa [List.append_nil, Nat.add_comm] at inserted
  | cons tree rest ih =>
      rw [weights, Nat.add_assoc]
      exact .delete ih

/-- Roots of different kinds cannot be kept, so that every script replaces the one tree by the
other. -/
theorem Script.cost_of_different_roots {tree target : EditTree H} {cost : Nat}
    (script : Script [tree] [target] cost) (different : tree.kind ≠ target.kind) :
    cost = tree.weight + target.weight := by
  cases script with
  | delete later =>
      cases later with
      | insert last =>
          cases last
          rfl
  | insert later =>
      cases later with
      | delete last =>
          cases last
          exact Nat.add_comm _ _
  | keep kind below later => exact absurd kind different

theorem LeastCost.le_joint_weight {diff : EditTree H → EditTree H → Nat} (least : LeastCost diff)
    (tree target : EditTree H) : diff tree target ≤ tree.weight + target.weight :=
  (least tree target).least _ (.replace [tree] [target])

/-- The whole joint weight is the distance exactly where the roots cannot be kept; kept roots save
at least the weight of the first. -/
theorem LeastCost.eq_joint_weight_iff {diff : EditTree H → EditTree H → Nat}
    (least : LeastCost diff)
    {tree : EditTree H} (heavy : weights tree.children < tree.weight) (target : EditTree H) :
    diff tree target = tree.weight + target.weight ↔ tree.kind ≠ target.kind := by
  constructor
  · intro full same
    have kept := Script.keep same (.replace tree.children target.children) .done
    have saved := (least tree target).least _ kept
    have below : weights target.children ≤ target.weight := by
      cases target
      exact Nat.le_add_left _ _
    omega
  · intro different
    exact (least tree target).reached.cost_of_different_roots different

/-- What an edit distance leaves of a joint weight, in exact arithmetic and not held in the unit
interval. -/
def exactSimilarity (distance total : Nat) : ℚ :=
  1 - distance / (max total 1 : Nat)

section Exact

variable {distance total : Nat}

theorem exact_similarity_le_one : exactSimilarity distance total ≤ 1 :=
  sub_le_self 1 (by positivity)

theorem exact_similarity_nonneg (bounded : distance ≤ total) :
    0 ≤ exactSimilarity distance total := by
  have most : (distance : ℚ) ≤
      (max total 1 : Nat) := by exact_mod_cast bounded.trans (le_max_left _ _)
  exact sub_nonneg.2 (div_le_one_of_le₀ most (by positivity))

theorem exact_similarity_eq_one_iff : exactSimilarity distance total = 1 ↔ distance = 0 := by
  have some : ((max total 1 : Nat) : ℚ) ≠ 0 := by
    exact_mod_cast Nat.ne_of_gt (Nat.le_max_right total 1)
  rw [exactSimilarity, sub_eq_self, div_eq_zero_iff, or_iff_left some, Nat.cast_eq_zero]

end Exact

variable {hasher : Hasher H} {weigh : String → Nat} {shape : Shape} {built : WeighedTree H}
  {first : ShapeNode}

theorem Whole.root_kind (whole : Whole hasher weigh shape built)
    (found : shape.nodes[0]? = some first) :
    built.root.kind = hasher.ofKind first.kind := by
  obtain ⟨⟨kind, weight, children⟩, total⟩ := built
  obtain ⟨entry, there, equal, -⟩ := whole.copies
  rw [Array.getElem?_toList, found] at there
  obtain rfl := Option.some.inj there
  exact equal

theorem Whole.root_heavy (whole : Whole hasher weigh shape built)
    (positive : ∀ kind, 0 < weigh kind) :
    weights built.root.children < built.root.weight := by
  obtain ⟨⟨kind, weight, children⟩, total⟩ := built
  obtain ⟨entry, -, -, own, -⟩ := whole.copies
  have := positive entry.kind
  rw [EditTree.weight, EditTree.children]
  omega

end Edit

namespace ShapeScores

variable {distance total : Nat}

/-- The rounded quotient of a distance by a weight that is not less is at most one, and where the
distance is not zero it is at least the gap of the doubles below one. -/
theorem edit_quotient (bounded : distance ≤ total) (small : total ≤ 2 ^ 53) :
    ∃ quotient : ℝ, Worth .positive (distance.toFloat / (max total 1).toFloat) quotient ∧
      quotient ≤ 1 ∧ (0 < distance → 2 ^ (-53 : Int) ≤ quotient) ∧
      (distance = 0 → quotient = 0) := by
  have most : max total 1 ≤ 2 ^ 53 := max_le small (by norm_num)
  obtain ⟨number, number', worth, worth', ordered, nearest, nearest'⟩ :=
    counts_worth (bounded.trans (le_max_left total 1)) (most.trans (by norm_num))
  have positive : 1 ≤ number' := nearest'.one_le (by omega)
  have below : number / number' ≤ 1 := div_le_one_of_le₀ ordered (by linarith)
  obtain ⟨quotient, exact', rounded⟩ := (worth.div worth' (by linarith)).nearest
    (below.trans (one_le_pow₀ (by norm_num)))
  refine ⟨quotient, exact', rounded.le_of_le representable_one below, fun some => ?_, ?_⟩
  · have numerator : 1 ≤ number := nearest.one_le some
    have denominator : number' ≤ 2 ^ 53 :=
      nearest'.le_of_le (representable_two_pow 53) (by exact_mod_cast most)
    apply rounded.ge_of_ge (representable_two_zpow (by decide))
    rw [le_div_iff₀ (by linarith)]
    calc (2 : ℝ) ^ (-53 : Int) * number' ≤ 2 ^ (-53 : Int) * 2 ^ 53 :=
          mul_le_mul_of_nonneg_left denominator (by positivity)
      _ = 1 := by norm_num
      _ ≤ number := numerator
  · rintro rfl
    have nothing : number = 0 :=
      le_antisymm (nearest.le_of_le representable_zero (by norm_num)) worth.nonneg
    rw [nothing, zero_div] at rounded
    exact le_antisymm (rounded.le_of_le representable_zero le_rfl) exact'.nonneg

theorem representable_below_one : Representable (1 - 2 ^ (-53 : Int)) :=
  ⟨2 ^ 53 - 1, -53, by norm_num, by norm_num, by norm_num⟩

theorem one_minus_nothing {x : Float} (worth : Worth .positive x 0) : 1.0 - x = 1.0 := by
  have zero : ∃ sign, x.toModel.unpack = .zero sign := by
    unfold Worth at worth
    generalize x.toModel.unpack = unpacked at worth ⊢
    generalize nothing : (0 : ℝ) = number at worth
    cases worth with
    | zero sign => exact ⟨sign, rfl⟩
    | finite mantissa exponent positive canonical =>
        exact absurd nothing (size_pos positive exponent).ne
  obtain ⟨sign, unpacked⟩ := zero
  have same : (1.0 - x).toModel = (1.0 : Float).toModel := by
    rw [to_model_sub, unpacked]
    cases sign <;> decide +kernel
  exact congrArg Float.ofModel same

/-- Also in doubles nothing is cut off, and a distance that is not zero shows, as long as the joint
weight can be counted in doubles. -/
theorem edit_similarity_eq (bounded : distance ≤ total) (small : total ≤ 2 ^ 53) :
    editSimilarityOf distance total = 1.0 - distance.toFloat / (max total 1).toFloat ∧
      (editSimilarityOf distance total = 1.0 ↔ distance = 0) := by
  obtain ⟨quotient, worth, most, least, nothing⟩ := edit_quotient bounded small
  obtain ⟨number, worth', nearest⟩ := (worth_literal_one.sub worth most).nearest
    ((sub_le_self 1 worth.nonneg).trans (one_le_pow₀ (by norm_num)))
  have below : number ≤ 1 := nearest.le_of_le representable_one (sub_le_self 1 worth.nonneg)
  have same : editSimilarityOf distance total = 1.0 - distance.toFloat / (max total 1).toFloat :=
    clamp_of_within ⟨number, below, worth'⟩
  refine ⟨same, ?_⟩
  rw [same]
  constructor
  · intro full
    by_contra some
    have gap := nearest.le_of_le representable_below_one
      (sub_le_sub_left (least (Nat.pos_of_ne_zero some)) 1)
    have apart : number < 1 := gap.trans_lt (sub_lt_self 1 (by positivity))
    have less := (worth'.valued.lt_iff worth_literal_one.valued).2 (EReal.coe_lt_coe_iff.2 apart)
    rw [full, worth_literal_one.valued.lt_iff worth_literal_one.valued] at less
    exact lt_irrefl _ less
  · intro zero
    rw [nothing zero] at worth
    exact one_minus_nothing worth

end ShapeScores

/-- What a distance and a similarity say about two trees with roots of these kinds and of this joint
weight. Roots are told apart by the digests of their kinds. -/
structure Edit.Judged {H : Type} (hasher : Hasher H) (kind kind' : String) (total distance : Nat)
    (similarity : Float) : Prop where
  bounded : distance ≤ total
  full_iff_digests : distance = total ↔ hasher.ofKind kind ≠ hasher.ofKind kind'
  full_iff_kinds : hasher.TellsApart (fun root => root = kind ∨ root = kind') →
    (distance = total ↔ kind ≠ kind')
  nonneg : 0 ≤ exactSimilarity distance total
  le_one : exactSimilarity distance total ≤ 1
  one_iff : exactSimilarity distance total = 1 ↔ distance = 0
  rounded : similarity = ShapeScores.editSimilarityOf distance total
  rounded_unclamped : total ≤ 2 ^ 53 → similarity = 1.0 - distance.toFloat / (max total 1).toFloat
  rounded_one_iff : total ≤ 2 ^ 53 → (similarity = 1.0 ↔ distance = 0)

theorem Edit.LeastCost.judged {H : Type} {diff : EditTree H → EditTree H → Nat}
    (least : LeastCost diff)
    {hasher : Hasher H} {weigh : String → Nat} (positive : ∀ kind, 0 < weigh kind) {a b : Shape}
    {built built' : WeighedTree H} (whole : Whole hasher weigh a built)
    (whole' : Whole hasher weigh b built')
    {first first' : ShapeNode} (found : a.nodes[0]? = some first)
    (found' : b.nodes[0]? = some first') :
    Judged hasher first.kind first'.kind (built.weight + built'.weight)
      (diff built.root built'.root)
      (ShapeScores.editSimilarityOf (diff built.root built'.root)
        (built.weight + built'.weight)) := by
  have roots := whole.root_kind found
  have roots' := whole'.root_kind found'
  have bounded := least.le_joint_weight built.root built'.root
  have full := least.eq_joint_weight_iff (whole.root_heavy positive) built'.root
  rw [← whole.weight, ← whole'.weight] at bounded full
  rw [roots, roots'] at full
  refine ⟨bounded, full, ?_, exact_similarity_nonneg bounded, exact_similarity_le_one,
    exact_similarity_eq_one_iff, rfl, fun small => (ShapeScores.edit_similarity_eq bounded small).1,
    fun small => (ShapeScores.edit_similarity_eq bounded small).2⟩
  intro apart
  rw [full]
  exact not_congr ⟨apart _ _ (.inl rfl) (.inr rfl), fun same => by rw [same]⟩

/-- The scores of two edit trees are there and are what these trees say. -/
def Edit.Reported {H : Type} (hasher : Hasher H) (kind kind' : String)
    (tree tree' : Option (WeighedTree H))
    (distance : Option Nat) (similarity : Option Float) : Prop :=
  ∃ built built' cost likeness, tree = some built ∧ tree' = some built' ∧ distance = some cost ∧
    similarity = some likeness ∧
    Judged hasher kind kind' (built.weight + built'.weight) cost likeness

theorem Edit.LeastCost.reported {H : Type} {diff : EditTree H → EditTree H → Nat}
    (least : LeastCost diff)
    {hasher : Hasher H} {weigh : String → Nat} (positive : ∀ kind, 0 < weigh kind) {a b : Shape}
    {tree tree' : Option (WeighedTree H)} {built built' : WeighedTree H} (found : tree = some built)
    (found' : tree' = some built') (whole : Whole hasher weigh a built)
    (whole' : Whole hasher weigh b built')
    {first first' : ShapeNode} (start : a.nodes[0]? = some first)
    (start' : b.nodes[0]? = some first') :
    Reported hasher first.kind first'.kind tree tree'
      ((ShapeScores.edit diff tree tree').map Prod.fst)
      ((ShapeScores.edit diff tree tree').map Prod.snd) := by
  subst found found'
  exact ⟨built, built', _, _, rfl, rfl, rfl, rfl, least.judged positive whole whole' start start'⟩

theorem ShapeScores.edit_absent {H : Type} (diff : EditTree H → EditTree H → Nat)
    {tree tree' : Option (WeighedTree H)} (absent : tree = none ∨ tree' = none) :
    edit diff tree tree' = none := by
  rcases absent with rfl | rfl
  · rfl
  · cases tree <;> rfl

namespace ShapeProfile

variable {H : Type} [BEq H] {shape : Shape} {limit : Nat}

theorem edit_trees_of_fitting (hasher : Hasher H) (laid : shape.Laid)
    (fits : 1 ≤ shape.size ∧ shape.size ≤ limit) :
    ∃ first built built', shape.nodes[0]? = some first ∧
      (ofShapeWith hasher limit shape).editTree = some built ∧
      Edit.Whole hasher Edit.unitWeight shape built ∧
      (ofShapeWith hasher limit shape).weightedEditTree = some built' ∧
      Edit.Whole hasher Edit.kindWeight shape built' := by
  have within : (decide (0 < limit) && decide (shape.size ≤ limit)) = true := by
    rw [Bool.and_eq_true, decide_eq_true_eq, decide_eq_true_eq]
    omega
  have present : ∀ weigh, ∃ built, Edit.ofShape hasher weigh shape = some built ∧
      Edit.Whole hasher weigh shape built := by
    intro weigh
    have assembles := laid.assembles_whole hasher weigh
    have some : Edit.ofShape hasher weigh shape ≠ none := by
      intro absent
      rw [Shape.size, assembles.absent_iff.1 absent] at fits
      exact absurd fits.1 (by decide)
    obtain ⟨built, found⟩ := Option.ne_none_iff_exists'.1 some
    exact ⟨built, found, assembles.whole built found⟩
  obtain ⟨built, found, whole⟩ := present Edit.unitWeight
  obtain ⟨built', found', whole'⟩ := present Edit.kindWeight
  exact ⟨_, built, built', Array.getElem?_eq_getElem fits.1, (if_pos within).trans found, whole,
    (if_pos within).trans found', whole'⟩

theorem no_edit_trees (hasher : Hasher H) (unfit : ¬(1 ≤ shape.size ∧ shape.size ≤ limit)) :
    (ofShapeWith hasher limit shape).editTree = none ∧
      (ofShapeWith hasher limit shape).weightedEditTree = none := by
  by_cases within : (decide (0 < limit) && decide (shape.size ≤ limit)) = true
  · have empty : shape.nodes = #[] := by
      rw [Bool.and_eq_true, decide_eq_true_eq, decide_eq_true_eq] at within
      apply Array.eq_empty_of_size_eq_zero
      have size : shape.size = shape.nodes.size := rfl
      omega
    obtain ⟨nodes⟩ := shape
    obtain rfl : nodes = #[] := empty
    exact ⟨if_pos within, if_pos within⟩
  · exact ⟨if_neg within, if_neg within⟩

end ShapeProfile

/-- Every shape is assembled as a whole, under any weights. Two shapes have all four edit scores
where both have nodes and no more than their limits allow, and none of them otherwise. A distance is
at most the joint weight of the trees, it is the joint weight exactly where the kinds of the roots
differ, and its similarity is in the unit interval without being held there and is one exactly where
the distance is zero; in doubles this goes for joint weights up to which counting is exact. -/
theorem edit_scores_of_whole_trees {H : Type} [BEq H] {diff : EditTree H → EditTree H → Nat}
    (least : Edit.LeastCost diff) (hasher : Hasher H) {a b : Shape} (laid : a.Laid) (laid' : b.Laid)
    (limit limit' : Nat) :
    let own := ShapeProfile.ofShapeWith hasher limit a
    let other := ShapeProfile.ofShapeWith hasher limit' b
    let scores := ShapeScores.compareWith diff own other
    let fit := (1 ≤ a.size ∧ a.size ≤ limit) ∧ 1 ≤ b.size ∧ b.size ≤ limit'
    (∀ weigh, Edit.AssemblesWhole hasher weigh a ∧ Edit.AssemblesWhole hasher weigh b) ∧
      (fit → ∃ first first', a.nodes[0]? = some first ∧ b.nodes[0]? = some first' ∧
        Edit.Reported hasher first.kind first'.kind own.editTree other.editTree scores.editDistance
          scores.editSimilarity ∧
        Edit.Reported hasher first.kind first'.kind own.weightedEditTree other.weightedEditTree
          scores.weightedEditDistance scores.weightedEditSimilarity) ∧
      (¬fit → scores.editDistance = none ∧ scores.editSimilarity = none ∧
        scores.weightedEditDistance = none ∧ scores.weightedEditSimilarity = none) := by
  intro own other scores fit
  refine ⟨fun weigh => ⟨laid.assembles_whole hasher weigh, laid'.assembles_whole hasher weigh⟩,
    ?_, ?_⟩
  · rintro ⟨fits, fits'⟩
    obtain ⟨first, built, heavy, start, found, whole, foundHeavy, wholeHeavy⟩ :=
      ShapeProfile.edit_trees_of_fitting hasher laid fits
    obtain ⟨first', built', heavy', start', found', whole', foundHeavy', wholeHeavy'⟩ :=
      ShapeProfile.edit_trees_of_fitting hasher laid' fits'
    refine ⟨first, first', start, start', ?_, ?_⟩
    · exact least.reported (fun _ => Nat.one_pos) found found' whole whole' start start'
    · exact least.reported Edit.kind_weight_pos foundHeavy foundHeavy' wholeHeavy
        wholeHeavy' start start'
  · intro unfit
    have absent : (own.editTree = none ∨ other.editTree = none) ∧
        (own.weightedEditTree = none ∨ other.weightedEditTree = none) := by
      rcases not_and_or.1 unfit with beyond | beyond
      · obtain ⟨unit, weighted⟩ := ShapeProfile.no_edit_trees hasher beyond
        exact ⟨.inl unit, .inl weighted⟩
      · obtain ⟨unit, weighted⟩ := ShapeProfile.no_edit_trees hasher beyond
        exact ⟨.inr unit, .inr weighted⟩
    have unit := ShapeScores.edit_absent diff absent.1
    have weighted := ShapeScores.edit_absent diff absent.2
    exact ⟨congrArg (Option.map Prod.fst) unit, congrArg (Option.map Prod.snd) unit,
      congrArg (Option.map Prod.fst) weighted, congrArg (Option.map Prod.snd) weighted⟩

/-- A module with a name against a lone name: nothing can be kept, and the three nodes are the
distance. -/
theorem lone_name_at_full_distance :
    let node := fun kind => Node.mk kind true false false false 0 1
    let tree := SyntaxTree.node (node "module") [.node (node "identifier") []]
    let outer := Shape.ofTree ['x'] tree
    let inner := Shape.ofTree ['x'] (.node (node "identifier") [])
    let own := ShapeProfile.ofShape 2 outer
    let other := ShapeProfile.ofShape 1 inner
    let scores := ShapeScores.compare own other
    Edit.LeastCost (Edit.distance (H := ShapeTree)) ∧ outer.Laid ∧ inner.Laid ∧
      (1 ≤ outer.size ∧ outer.size ≤ 2) ∧ (1 ≤ inner.size ∧ inner.size ≤ 1) ∧
      scores.editDistance = some 3 ∧
      Edit.Reported ShapeTree.hasher "module" "identifier" own.editTree other.editTree
        scores.editDistance
        scores.editSimilarity := by
  intro node tree outer inner own other scores
  have least : Edit.LeastCost (Edit.distance (H := ShapeTree)) := Edit.distance_least
  have laid : outer.Laid := .inr ⟨['x'], tree, rfl⟩
  have laid' : inner.Laid := .inr ⟨['x'], .node (node "identifier") [], rfl⟩
  have fits : 1 ≤ outer.size ∧ outer.size ≤ 2 := by decide +kernel
  have fits' : 1 ≤ inner.size ∧ inner.size ≤ 1 := by decide +kernel
  obtain ⟨first, first', found, found', reported, -⟩ :=
    (edit_scores_of_whole_trees least ShapeTree.hasher laid laid' 2 1).2.1 ⟨fits, fits'⟩
  have kind : first.kind = "module" := by
    have known : outer.nodes[0]?.map ShapeNode.kind = some "module" := by decide +kernel
    rw [found] at known
    exact Option.some.inj known
  have kind' : first'.kind = "identifier" := by
    have known : inner.nodes[0]?.map ShapeNode.kind = some "identifier" := by decide +kernel
    rw [found'] at known
    exact Option.some.inj known
  rw [kind, kind'] at reported
  exact ⟨least, laid, laid', fits, fits', by decide +kernel, reported⟩

end Resemblance
