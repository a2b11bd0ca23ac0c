import Resemblance.Cache.Key
import Resemblance.Record

/-!
Stores: places where the records of comparisons are kept. A store says what it holds under a key and
takes records in; what it keeps them in is its own affair.
-/

namespace Resemblance

structure Store (σ : Type) where
  /-- The version of the metrics of all its records. -/
  version : String
  get : CacheKey → σ → Except Failure (Option Record)
  /-- Holds a record under a key, in place of the one that was held before. -/
  put : CacheKey → Record → σ → Except Failure σ

end Resemblance
