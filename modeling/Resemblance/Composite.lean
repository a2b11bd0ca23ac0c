import Resemblance.Scalar

/-!
The composite score: the weighted mean of the parts that are present. A part that is absent takes
its weight with it.
-/

namespace Resemblance

structure Weights (α : Type) where
  bleu : α
  structural : α
  delegate : α

/-- Scores with their weights, summed up to the weighted sum and the total weight. -/
structure WeightedSum (α : Type) where
  sum : α
  weight : α

namespace WeightedSum

variable {α : Type} [Scalar α]

def add (total : WeightedSum α) (weight : α) : Option α → WeightedSum α
  | none => total
  | some score => ⟨total.sum + weight * score, total.weight + weight⟩

/-- The weighted mean, held within zero and one; without positive weight it is zero. -/
def mean (total : WeightedSum α) : α :=
  if Scalar.le total.weight Scalar.zero then Scalar.zero else clampUnit (total.sum / total.weight)

end WeightedSum

/-- The composite of a score that is always there and two that may be absent. -/
def compositeScore {α : Type} [Scalar α] (weights : Weights α) (bleu : α)
    (structural delegate : Option α) : α :=
  let first : WeightedSum α := ⟨weights.bleu * bleu, weights.bleu⟩
  ((first.add weights.structural structural).add weights.delegate delegate).mean

end Resemblance
