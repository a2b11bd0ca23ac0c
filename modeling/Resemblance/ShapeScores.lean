import Resemblance.Edit
import Resemblance.Histogram
import Resemblance.Overlap
import Resemblance.Scalar
import Resemblance.ShapeTree

/-!
The comparison of two shapes: relative differences of their sizes, heights and histograms, the
overlap of their subtrees, and their edit distances where both shapes are small enough.
-/

namespace Resemblance

/-- The scores of two shapes. The four edit scores are absent for shapes beyond the limit. -/
structure ShapeScores where
  nodeCountDelta : Float
  depthDelta : Float
  histogramSimilarity : Float
  histogramDistance : Float
  subtreeOverlap : Float
  editDistance : Option Nat
  editSimilarity : Option Float
  weightedEditDistance : Option Nat
  weightedEditSimilarity : Option Float

structure ShapeMetrics where
  nodeCount : Nat
  maxDepth : Nat
  histogram : Histogram

namespace ShapeMetrics

def ofShape (shape : Shape) : ShapeMetrics where
  nodeCount := shape.size
  maxDepth := shape.nodes.foldl (fun depth node => max depth node.depth) 0
  histogram := shape.nodes.foldl (fun histogram node => histogram.add node.kind) .empty

def kindCount (metrics : ShapeMetrics) : Nat :=
  metrics.histogram.counts.length

end ShapeMetrics

/-- A shape prepared for comparison: its measurements, the digests of its subtrees, and its edit
trees with nodes of one weight and of weights by their kinds. -/
structure ShapeProfile (H : Type := ShapeTree) where
  metrics : ShapeMetrics
  subtrees : List H
  editTree : Option (WeighedTree H)
  weightedEditTree : Option (WeighedTree H)

namespace ShapeProfile

variable {H : Type}

/-- Prepares a shape. One with more nodes than the limit has no edit trees; with a limit of zero
none has. -/
def ofShapeWith [BEq H] (hasher : Hasher H) (editLimit : Nat) (shape : Shape) : ShapeProfile H :=
  let within := 0 < editLimit && shape.size ≤ editLimit
  { metrics := .ofShape shape
    subtrees := shape.digests hasher
    editTree := if within then Edit.ofShape hasher Edit.unitWeight shape else none
    weightedEditTree := if within then Edit.ofShape hasher Edit.kindWeight shape else none }

/-- Prepares a shape with digests that never collide. -/
def ofShape : Nat → Shape → ShapeProfile :=
  ofShapeWith ShapeTree.hasher

def editable (profile : ShapeProfile H) : Bool :=
  profile.editTree.isSome

end ShapeProfile

namespace ShapeScores

def editSimilarityOf (distance total : Nat) : Float :=
  clampUnit (1.0 - distance.toFloat / (max total 1).toFloat)

def edit {H : Type} (diff : EditTree H → EditTree H → Nat) :
    Option (WeighedTree H) → Option (WeighedTree H) → Option (Nat × Float)
  | some a, some b =>
      let distance := diff a.root b.root
      some (distance, editSimilarityOf distance (a.weight + b.weight))
  | _, _ => none

def compareWith {H : Type} [BEq H] (diff : EditTree H → EditTree H → Nat)
    (reference candidate : ShapeProfile H) : ShapeScores :=
  let a := reference.metrics
  let b := candidate.metrics
  let unit := edit diff reference.editTree candidate.editTree
  let weighted := edit diff reference.weightedEditTree candidate.weightedEditTree
  { nodeCountDelta := delta a.nodeCount b.nodeCount
    depthDelta := delta a.maxDepth b.maxDepth
    histogramSimilarity := a.histogram.cosine b.histogram
    histogramDistance := a.histogram.distance b.histogram
    subtreeOverlap := (Overlap.ratio reference.subtrees candidate.subtrees).toFloat
    editDistance := unit.map Prod.fst
    editSimilarity := unit.map Prod.snd
    weightedEditDistance := weighted.map Prod.fst
    weightedEditSimilarity := weighted.map Prod.snd }

def compare : ShapeProfile → ShapeProfile → ShapeScores :=
  compareWith Edit.distance

def similarity (scores : ShapeScores) : Float :=
  let sum := (1.0 - scores.nodeCountDelta) + (1.0 - scores.depthDelta) + scores.histogramSimilarity
  clampUnit (sum / 3.0)

end ShapeScores
end Resemblance
