/-!
Ratios of two counts. A score that is a ratio keeps both counts, so that its laws are laws of
natural numbers; only its last step is a division of doubles.
-/

namespace Resemblance

/-- A ratio of two counts. With nothing to count it stands for zero. -/
structure Ratio where
  part : Nat
  whole : Nat
  deriving DecidableEq, Repr

namespace Ratio

def one : Ratio := ⟨1, 1⟩

/-- The double nearest to the ratio of the two counts, each taken to its nearest double first. -/
def toFloat (ratio : Ratio) : Float :=
  if ratio.whole = 0 then 0.0 else ratio.part.toFloat / ratio.whole.toFloat

end Ratio

end Resemblance
