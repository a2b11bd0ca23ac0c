import Resemblance.Ratio
import Resemblance.Scalar
import Resemblance.Tally

/-!
Histograms: how many nodes there are of each kind, with the kinds in increasing order. Two
histograms are compared by the cosine of their angle and by their relative difference.
-/

namespace Resemblance

structure Histogram where
  counts : List (String × Nat)
  deriving DecidableEq, Repr

/-- The sum of doubles from left to right; without any it is negative zero. -/
def sumFloats (xs : List Float) : Float :=
  xs.foldl (· + ·) (-0.0)

/-- The relative difference of two counts, nothing if both are zero. -/
def deltaRatio (a b : Nat) : Ratio :=
  ⟨max a b - min a b, max a b⟩

def delta (a b : Nat) : Float :=
  clampUnit (deltaRatio a b).toFloat

namespace Histogram

def empty : Histogram := ⟨[]⟩

def countOne (kind : String) : List (String × Nat) → List (String × Nat)
  | [] => [(kind, 1)]
  | entry :: rest =>
      if kind = entry.1 then (kind, entry.2 + 1) :: rest
      else if kind < entry.1 then (kind, 1) :: entry :: rest
      else entry :: countOne kind rest

def add (histogram : Histogram) (kind : String) : Histogram :=
  ⟨countOne kind histogram.counts⟩

def find? (histogram : Histogram) (kind : String) : Option Nat :=
  histogram.counts.lookup kind

def count (histogram : Histogram) (kind : String) : Nat :=
  (histogram.find? kind).getD 0

def values (histogram : Histogram) : List Nat :=
  histogram.counts.map Prod.snd

def common (a b : Histogram) : List (Nat × Nat) :=
  a.counts.filterMap fun entry => (b.find? entry.1).map fun other => (entry.2, other)

def norm (histogram : Histogram) : Float :=
  (sumFloats (histogram.values.map fun n => n.toFloat * n.toFloat)).sqrt

/-- The cosine of the angle between two histograms. Two without kinds are equal, and one without
positive counts is like no other. -/
def cosine (a b : Histogram) : Float :=
  if a.counts.isEmpty && b.counts.isEmpty then 1.0
  else
    let dot := sumFloats ((common a b).map fun pair => pair.1.toFloat * pair.2.toFloat)
    if a.norm == 0.0 || b.norm == 0.0 then 0.0
    else clampUnit (dot / (a.norm * b.norm))

def paired (a b : Histogram) : List (Nat × Nat) :=
  (a.counts.map fun entry => (entry.2, b.count entry.1)) ++
    (b.counts.filter fun entry => (a.find? entry.1).isNone).map fun entry => (0, entry.2)

/-- The summed differences of the counts, over the sum of the greater ones. -/
def distanceRatio (a b : Histogram) : Ratio :=
  ⟨sumOf ((paired a b).map fun pair => max pair.1 pair.2 - min pair.1 pair.2),
    sumOf ((paired a b).map fun pair => max pair.1 pair.2)⟩

def distance (a b : Histogram) : Float :=
  clampUnit (distanceRatio a b).toFloat

end Histogram
end Resemblance
