import Resemblance.Elementary
import Resemblance.Gram
import Resemblance.Ratio
import Resemblance.Scalar
import Resemblance.Token

/-!
The bilingual evaluation score of a candidate against one reference: the geometric mean of its
clipped gram precisions for the lengths one to `order`, times a penalty for a candidate that is too
short.
-/

namespace Resemblance.Bleu

def defaultOrder : Nat := 4

def precisionRatio (n : Nat) (reference candidate : List String) : Ratio :=
  ⟨Gram.matched n reference candidate, Gram.total n candidate⟩

def precision (n : Nat) (reference candidate : List String) : Float :=
  (precisionRatio n reference candidate).toFloat

/-- The penalty for a candidate that is not longer than its reference. -/
def brevityPenalty (referenceLength candidateLength : Nat) (library : Elementary := .platform) :
    Float :=
  if candidateLength > referenceLength then 1.0
  else if candidateLength = 0 then 0.0
  else library.exp (1.0 - referenceLength.toFloat / candidateLength.toFloat)

def order (maxOrder : Nat) (reference candidate : List String) : Nat :=
  min maxOrder (max reference.length candidate.length)

/-- The sum of the logarithms of the precisions, unless one of them is zero. -/
def logPrecision (reference candidate : List String) (order : Nat)
    (library : Elementary := .platform) : Option Float :=
  (List.range order).foldlM
    (fun sum n =>
      let value := precision (n + 1) reference candidate
      if value == 0.0 then none else some (sum + library.log value))
    0.0

def ofTokens (maxOrder : Nat) (reference candidate : List String)
    (library : Elementary := .platform) : Float :=
  if reference.isEmpty || candidate.isEmpty || maxOrder = 0 then 0.0
  else
    let order := order maxOrder reference candidate
    match logPrecision reference candidate order library with
    | none => 0.0
    | some sum =>
        clampUnit
          (brevityPenalty reference.length candidate.length library *
            library.exp (sum / order.toFloat))

def score (maxOrder : Nat) (reference candidate : String) (library : Elementary := .platform) :
    Float :=
  ofTokens maxOrder (Token.tokens reference) (Token.tokens candidate) library

end Resemblance.Bleu
