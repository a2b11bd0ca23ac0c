import Resemblance.Proofs.EditBounds
import Resemblance.Shape.Report

/-!
What comments leave alone. Comments below the nodes of a parse tree do not change the outline of its
shape, and the outline is all that the measurements, the edit trees and the limit for them depend
on: wherever comments are added, only the overlap of subtrees can change.
-/

namespace Resemblance

namespace SyntaxTree

mutual

/-- The second tree is the first one with comments added anywhere below its root. Corresponding
nodes are of one kind, named and tainted alike; where they stand and what text they cover is left
open. -/
inductive Remarked : SyntaxTree → SyntaxTree → Prop
  | node {head head' : Node} {children children' : List SyntaxTree} (kind : head.kind = head'.kind)
      (named : head.named = head'.named) (tainted : head.tainted = head'.tainted)
      (below : RemarkedAmong children children') :
      Remarked (.node head children) (.node head' children')

inductive RemarkedAmong : List SyntaxTree → List SyntaxTree → Prop
  | nil : RemarkedAmong [] []
  | keep {tree tree' : SyntaxTree} {rest rest' : List SyntaxTree} (first : Remarked tree tree')
      (later : RemarkedAmong rest rest') : RemarkedAmong (tree :: rest) (tree' :: rest')
  | insert {comment : SyntaxTree} {rest rest' : List SyntaxTree}
      (isComment : comment.head.isComment = true) (later : RemarkedAmong rest rest') :
      RemarkedAmong rest (comment :: rest')

end

open ShapeTree (ofTree ofTrees outline outline_node)

theorem Remarked.kept_eq {tree tree' : SyntaxTree} (remarked : Remarked tree tree') :
    tree.isKept = tree'.isKept := by
  cases remarked with
  | node kind named tainted below => simp only [isKept, head, Node.isComment, kind, named]

theorem Remarked.tainted_eq {tree tree' : SyntaxTree} (remarked : Remarked tree tree') :
    tree.head.tainted = tree'.head.tainted := by
  cases remarked with
  | node kind named tainted below => exact tainted

/-- The induction is on the list with the comments: an added comment is dropped, and any other tree
is kept on both sides or on none. -/
theorem RemarkedAmong.outlines {trees trees' : List SyntaxTree} (source source' : List Char)
    (remarked : RemarkedAmong trees trees')
    (outlines : ∀ tree' ∈ trees', ∀ tree, Remarked tree tree' →
      (ofTree source tree).outline = (ofTree source' tree').outline) :
    (ofTrees source trees).map outline = (ofTrees source' trees').map outline := by
  induction trees' generalizing trees with
  | nil =>
      cases remarked with
      | nil => rfl
  | cons tree' rest' ih =>
      have below := fun other member => outlines other (List.mem_cons_of_mem tree' member)
      cases remarked with
      | keep first later =>
          have others := ih later below
          rw [ofTrees, ofTrees, first.kept_eq]
          cases keeps : tree'.isKept with
          | false => exact others
          | true =>
              rw [if_pos rfl, if_pos rfl, List.map_cons, List.map_cons, others,
                outlines tree' List.mem_cons_self _ first]
      | insert isComment later =>
          rw [ofTrees, not_kept_of_comment isComment]
          exact ih later below

theorem Remarked.outline_eq {tree tree' : SyntaxTree} (remarked : Remarked tree tree')
    (source source' : List Char) :
    (ofTree source tree).outline = (ofTree source' tree').outline := by
  induction tree' using tree_induction generalizing tree with
  | step head' children' ih =>
      cases remarked with
      | node kind named tainted below =>
          have children := below.outlines source source' fun child member _ inner =>
            ih child member inner
          rw [ofTree, ofTree, outline_node, outline_node, kind, children]

end SyntaxTree

namespace ShapeTree

def plainKinds : Hasher String where
  ofKind kind := kind
  ofNode kind _ _ := kind
  le _ _ := true

section Outline

variable {tree other : ShapeTree} (same : tree.outline = other.outline)

include same

theorem edit_tree_of_outline {H : Type} (hasher : Hasher H) (weigh : String → Nat) :
    tree.editTree hasher weigh = other.editTree hasher weigh := by
  rw [← edit_tree_outline, same, edit_tree_outline]

theorem kinds_of_outline : tree.kinds = other.kinds := by
  have kinds := congrArg EditTree.kinds (edit_tree_of_outline same plainKinds Edit.unitWeight)
  simpa only [edit_tree_kinds, plainKinds, List.map_id'] using kinds

theorem height_of_outline : tree.height = other.height := by
  have heights := congrArg EditTree.height (edit_tree_of_outline same plainKinds Edit.unitWeight)
  simpa only [edit_tree_height] using heights

theorem size_of_outline : tree.size = other.size := by
  rw [← kinds_length, ← kinds_length, kinds_of_outline same]

end Outline

end ShapeTree

theorem ShapeMetrics.of_tree_eq (source : List Char) (tree : SyntaxTree) :
    ofShape (Shape.ofTree source tree) =
      { nodeCount := (ShapeTree.ofTree source tree).size
        maxDepth := (ShapeTree.ofTree source tree).height
        histogram := (ShapeTree.ofTree source tree).kinds.foldl Histogram.add .empty } := by
  rw [← of_tree_node_count, ← of_tree_max_depth, ← Shape.foldl_kinds]
  rfl

section Outline

variable {source source' : List Char} {tree tree' : SyntaxTree}
  (same : (ShapeTree.ofTree source tree).outline = (ShapeTree.ofTree source' tree').outline)

include same

theorem ShapeMetrics.eq_of_outline :
    ofShape (Shape.ofTree source tree) = ofShape (Shape.ofTree source' tree') := by
  rw [of_tree_eq, of_tree_eq, ShapeTree.size_of_outline same, ShapeTree.height_of_outline same,
    ShapeTree.kinds_of_outline same]

theorem Edit.of_shape_of_outline {H : Type} (hasher : Hasher H) (weigh : String → Nat) :
    Edit.ofShape hasher weigh (Shape.ofTree source tree) =
      Edit.ofShape hasher weigh (Shape.ofTree source' tree') := by
  rw [of_shape_eq, of_shape_eq, ShapeTree.edit_tree_of_outline same,
    ShapeTree.kinds_of_outline same]

/-- Shapes of one outline have profiles that differ in the digests of their subtrees only. -/
theorem ShapeProfile.eq_of_outline {H : Type} [BEq H] (hasher : Hasher H) (limit : Nat) :
    ofShapeWith hasher limit (Shape.ofTree source tree) =
      { ofShapeWith hasher limit (Shape.ofTree source' tree') with
        subtrees := (Shape.ofTree source tree).digests hasher } := by
  have size : (Shape.ofTree source tree).size = (Shape.ofTree source' tree').size := by
    rw [Shape.of_tree_size, Shape.of_tree_size, ShapeTree.size_of_outline same]
  rw [ofShapeWith, ofShapeWith, ShapeMetrics.eq_of_outline same, size,
    Edit.of_shape_of_outline same, Edit.of_shape_of_outline same]

end Outline

/-- Scores that agree in everything but the overlap of subtrees. -/
structure ShapeScores.AgreeButOverlap (scores scores' : ShapeScores) : Prop where
  nodeCountDelta : scores.nodeCountDelta = scores'.nodeCountDelta
  depthDelta : scores.depthDelta = scores'.depthDelta
  histogramSimilarity : scores.histogramSimilarity = scores'.histogramSimilarity
  histogramDistance : scores.histogramDistance = scores'.histogramDistance
  editDistance : scores.editDistance = scores'.editDistance
  editSimilarity : scores.editSimilarity = scores'.editSimilarity
  weightedEditDistance : scores.weightedEditDistance = scores'.weightedEditDistance
  weightedEditSimilarity : scores.weightedEditSimilarity = scores'.weightedEditSimilarity

theorem ShapeScores.agree_of_subtrees {H : Type} [BEq H] (diff : EditTree H → EditTree H → Nat)
    (profile other : ShapeProfile H) (subtrees : List H) :
    (compareWith diff { profile with subtrees } other).AgreeButOverlap
        (compareWith diff profile other) ∧
      (compareWith diff other { profile with subtrees }).AgreeButOverlap
        (compareWith diff other profile) :=
  ⟨⟨rfl, rfl, rfl, rfl, rfl, rfl, rfl, rfl⟩, ⟨rfl, rfl, rfl, rfl, rfl, rfl, rfl, rfl⟩⟩

theorem ShapeReport.metrics_of_fault {grammar : Grammar} {source : String} :
    (ofSource grammar source).metrics =
      if (grammar source).head.tainted then ⟨0, 0, .empty⟩
      else .ofShape (.ofTree source.toList (grammar source)) := by
  rw [ofSource, Fault.first?, SyntaxTree.firstFault]
  cases (grammar source).head.tainted with
  | true => rfl
  | false => rfl

/-- Adding comments to a parse tree, wherever they stand and whatever their text, changes neither
the measurements that are reported of a source nor any score against another profile, on either side
and for any limit, but the overlap of subtrees. -/
theorem comments_change_overlap_only {source source' : String} {tree tree' : SyntaxTree}
    (remarked : tree.Remarked tree') :
    (∀ grammar : Grammar, grammar source = tree → grammar source' = tree' →
      (ShapeReport.ofSource grammar source).metrics =
        (ShapeReport.ofSource grammar source').metrics) ∧
      ∀ {H : Type} [BEq H] (hasher : Hasher H) (diff : EditTree H → EditTree H → Nat)
        (limit : Nat) (other : ShapeProfile H),
        let profile := ShapeProfile.ofShapeWith hasher limit (.ofTree source.toList tree)
        let profile' := ShapeProfile.ofShapeWith hasher limit (.ofTree source'.toList tree')
        (ShapeScores.compareWith diff profile other).AgreeButOverlap
            (ShapeScores.compareWith diff profile' other) ∧
          (ShapeScores.compareWith diff other profile).AgreeButOverlap
            (ShapeScores.compareWith diff other profile') := by
  have same := remarked.outline_eq source.toList source'.toList
  constructor
  · rintro grammar rfl rfl
    rw [ShapeReport.metrics_of_fault, ShapeReport.metrics_of_fault, remarked.tainted_eq,
      ShapeMetrics.eq_of_outline same]
  · intro H _ hasher diff limit other profile profile'
    have profiles : profile = { profile' with subtrees := profile.subtrees } :=
      ShapeProfile.eq_of_outline same hasher limit
    rw [profiles]
    exact ShapeScores.agree_of_subtrees diff profile' other _

/-- A comment between the parentheses of a call, which does change the digests of its subtrees. -/
theorem call_comment_changes_overlap_only :
    let own := ShapeProfile.ofShapeWith ShapeTree.hasher 500
      (Shape.ofTree (String.ofList bareCall).toList (callTree 4 []))
    let remarked := ShapeProfile.ofShapeWith ShapeTree.hasher 500
      (Shape.ofTree (String.ofList commentedCall).toList (callTree 7 [.node callComment []]))
    (callTree 4 []).Remarked (callTree 7 [.node callComment []]) ∧
      (ShapeScores.compareWith Edit.distance own own).AgreeButOverlap
        (ShapeScores.compareWith Edit.distance own remarked) := by
  intro own remarked
  have inside : SyntaxTree.RemarkedAmong [] [.node callComment []] :=
    .insert (show (SyntaxTree.node callComment []).head.isComment = true from rfl) .nil
  have trees : (callTree 4 []).Remarked (callTree 7 [.node callComment []]) :=
    .node rfl rfl rfl (.keep (.node rfl rfl rfl (.keep (.node rfl rfl rfl
      (.keep (.node rfl rfl rfl .nil) (.keep (.node rfl rfl rfl inside) .nil))) .nil)) .nil)
  have scores :=
    (@comments_change_overlap_only (String.ofList bareCall)
     (String.ofList commentedCall) _ _ trees).2
      ShapeTree.hasher Edit.distance 500 own
  exact ⟨trees, scores.2⟩

end Resemblance
