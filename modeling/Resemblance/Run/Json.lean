import Resemblance.Record.Json
import Resemblance.Run

/-!
Run summaries as JSON documents.
-/

namespace Resemblance

/-- A failed pair; its record goes without its time. -/
def PairFailure.toJson (failure : PairFailure) : Json :=
  .ofMembers
    [("reference", failure.reference.toJson), ("candidate", failure.candidate.toJson),
     ("kind", .ofText failure.kind.name), ("record", .ofMembers failure.record.scoreMembers)]

def RunSummary.toJson (summary : RunSummary) : Json :=
  .ofMembers
    [("attempted", .ofNat summary.attempted), ("cache_hits", .ofNat summary.cacheHits),
     ("computed", .ofNat summary.computed), ("errors", .ofNat summary.errors),
     ("cancelled", .ofNat summary.cancelled),
     ("failures", .array (summary.failures.map PairFailure.toJson))]

end Resemblance
