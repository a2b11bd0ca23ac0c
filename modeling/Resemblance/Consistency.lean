import Resemblance.Record
import Resemblance.Statistics

/-!
Consistency: how much the iterations of one bucket resemble each other, and how evenly. It falls
with the deviation of a score, and three scores together give a grade.
-/

namespace Resemblance

inductive Grade where
  | a | b | c | d | f
  deriving DecidableEq, Repr

namespace Grade

def ofScore (score : Float) : Grade :=
  if score ≥ 0.8 then a
  else if score ≥ 0.6 then b
  else if score ≥ 0.4 then c
  else if score ≥ 0.2 then d
  else f

def letter : Grade → String
  | a => "A"
  | b => "B"
  | c => "C"
  | d => "D"
  | f => "F"

end Grade

/-- The mean of some scores, less the share that their deviation takes; zero without scores. -/
def consistency {α : Type} [Scalar α] (scores : List α) : α :=
  match Statistics.ofValues? scores with
  | none => Scalar.zero
  | some statistics =>
      statistics.mean * (Scalar.one - Scalar.atMost Scalar.one statistics.deviation)

/-- The consistency of the composite score, of structure and of meaning, with their average. -/
structure ConsistencyScores where
  overall : Float
  structural : Float
  semantic : Float
  average : Float

namespace ConsistencyScores

def grade (scores : ConsistencyScores) : Grade :=
  .ofScore scores.average

def ofRecords (records : List Record) : ConsistencyScores :=
  let compared := records.filter Record.wasCompared
  let overall := consistency (compared.map Record.composite)
  let structural := consistency (compared.filterMap Record.structuralSimilarity)
  let semantic := consistency (compared.map Record.semanticSimilarity)
  ⟨overall, structural, semantic, (overall + structural + semantic) / 3.0⟩

end ConsistencyScores
end Resemblance
