import Resemblance.Grammar
import Resemblance.Json

/-!
Reports on the shape of one source: its measurements, or zeros and the reason why there are none.
-/

namespace Resemblance

inductive ShapeFault where
  | faulty (detail : String)
  | unreadable (detail : String)
  deriving DecidableEq, Repr

namespace ShapeFault

def kind : ShapeFault → String
  | faulty _ => "syntax"
  | unreadable _ => "input"

def detail : ShapeFault → String
  | faulty detail => detail
  | unreadable detail => detail

end ShapeFault

/-- The measurements of a source, and for a file whether it is there. -/
structure ShapeReport where
  metrics : ShapeMetrics
  fault : Option ShapeFault
  fileExists : Option Bool

namespace ShapeReport

def failed (fault : ShapeFault) : ShapeReport :=
  ⟨⟨0, 0, ⟨[]⟩⟩, some fault, none⟩

def ofSource (grammar : Grammar) (source : String) : ShapeReport :=
  let tree := grammar source
  match Fault.first? source tree with
  | some fault => failed (.faulty fault.describe)
  | none => ⟨.ofShape (.ofTree source.toList tree), none, none⟩

def toJson (report : ShapeReport) : Json :=
  let metrics := report.metrics
  .ofMembers
    [("node_count", .ofNat metrics.nodeCount), ("max_depth", .ofNat metrics.maxDepth),
     ("node_type_histogram",
       .ofMembers (metrics.histogram.counts.map fun entry => (entry.1, .ofNat entry.2))),
     ("unique_type_count", .ofNat metrics.kindCount),
     ("error", .ofOption (fun fault => .ofText fault.detail) report.fault),
     ("error_kind", .ofOption (fun fault => .ofText fault.kind) report.fault),
     ("file_exists", .ofOption .bool report.fileExists)]

end ShapeReport
end Resemblance
