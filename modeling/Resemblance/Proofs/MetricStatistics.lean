import Resemblance.Proofs.ExactNumbers
import Resemblance.Proofs.Tally
import Resemblance.Summary

/-!
The statistics of metrics. They list each metric that some compared record carries, and count the
records that carry it; a record gives no metric twice.
-/

namespace Resemblance

section Named

variable {α β : Type} {name : String} {values : List (String × α)}

variable [Scalar α]

end Named

namespace Record

end Record

end Resemblance
