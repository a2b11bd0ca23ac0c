import Resemblance.Artifact.Source
import Resemblance.Cache.Store
import Resemblance.Calculator

/-!
A single comparison through a store: its record is served if the store holds it, and computed and
held otherwise.
-/

namespace Resemblance

structure CachedRecord where
  record : Record
  hit : Bool

variable {σ : Type}

def computeHeld (store : Store σ) (calculator : Calculator) (key : CacheKey)
    (reference candidate : Artifact) (held : σ) : Except Failure CachedRecord × Calculator × σ :=
  let (comparison, calculator) :=
    calculator.compareWith reference.source reference.fingerprint candidate.source
      candidate.fingerprint
  match comparison.result with
  | .error detail => (.error (.internal detail), calculator, held)
  | .ok record =>
      match store.put key record held with
      | .ok held => (.ok ⟨record, false⟩, calculator, held)
      | .error failure => (.error failure, calculator, held)

def cachedCompare (store : Store σ) (calculator : Calculator) (reference candidate : Artifact)
    (force : Bool) (held : σ) : Except Failure CachedRecord × Calculator × σ :=
  match CacheKey.ofParts reference.id candidate.id reference.fingerprint candidate.fingerprint
      store.version with
  | .error failure => (.error failure, calculator, held)
  | .ok key =>
      if force then computeHeld store calculator key reference candidate held
      else
        match store.get key held with
        | .error failure => (.error failure, calculator, held)
        | .ok (some record) => (.ok ⟨record, true⟩, calculator, held)
        | .ok none => computeHeld store calculator key reference candidate held

end Resemblance
