import Resemblance.Cache.Entry
import Resemblance.Run

/-!
What one turn of a run can do to what a store holds. A store can keep a journal of all entries that
were put into it; the run takes no notice of that, so the entries a run stores can be spoken of.
-/

namespace Resemblance

variable {σ : Type}

/-- An artifact of the pair could not be read. -/
def Job.Unread (job : Job) : Prop :=
  (∃ failure, job.reference = .error failure) ∨ ∃ failure, job.candidate = .error failure

/-- What a turn can do to what a store holds, with the outcome it comes to. A pair that could not be
read leaves no record but that of a failure. -/
inductive Taken (store : Store σ) (job : Job) (held : σ) : PairOutcome → σ → Prop
  | cancelled : Taken store job held .cancelled held
  | fatal (failure : Failure) : Taken store job held (.fatal failure) held
  | unkeyed {outcome : PairOutcome} {failure : Failure}
      (unkeyed : job.key store.version = .error failure) : Taken store job held outcome held
  | served {key : CacheKey} {record : Record} (keyed : job.key store.version = .ok key)
      (found : store.get key held = .ok (some record)) : Taken store job held .cacheHit held
  | kept {key : CacheKey} {record : Record} {outcome : PairOutcome} {held' : σ}
      (keyed : job.key store.version = .ok key) (put : store.put key record held = .ok held')
      (marked : job.Unread → record.hasError = true) : Taken store job held outcome held'
  | refused {key : CacheKey} {record : Record} {outcome : PairOutcome} {refusal : Failure}
      (keyed : job.key store.version = .ok key)
      (refused : store.put key record held = .error refusal)
      (mild : refusal.isFatal = false) : Taken store job held outcome held

namespace RunState

variable {settings : RunSettings σ} {job : Job} {key : CacheKey}

end RunState

/-- A store that keeps a journal of the entries that were put into it, the last one at its end. -/
def Store.journaled (store : Store σ) : Store (σ × List CacheEntry) where
  version := store.version
  get key held := store.get key held.1
  put key record held :=
    (store.put key record held.1).map fun kept => (kept, held.2 ++ [⟨key, record⟩])

section Journaled

variable {store : Store σ} {key : CacheKey} {record : Record} {held held' : σ × List CacheEntry}

@[simp] theorem Store.journaled_version : store.journaled.version = store.version := rfl

@[simp] theorem Store.journaled_get : store.journaled.get key held = store.get key held.1 := rfl

theorem Store.journaled_put_ok :
    store.journaled.put key record held = .ok held' ↔
      ∃ kept, store.put key record held.1 = .ok kept ∧
      held' = (kept, held.2 ++ [⟨key, record⟩]) := by
  simp only [Store.journaled]
  cases store.put key record held.1 with
  | ok kept => simp [Except.map, eq_comm]
  | error refusal => simp [Except.map]

theorem Store.journaled_put_error {refusal : Failure} :
    store.journaled.put key record held = .error refusal ↔
      store.put key record held.1 = .error refusal := by
  simp only [Store.journaled]
  cases store.put key record held.1 with
  | ok kept => simp [Except.map]
  | error refusal => simp [Except.map]

end Journaled

def RunSettings.journaled (settings : RunSettings σ) : RunSettings (σ × List CacheEntry) :=
  ⟨settings.store.journaled, settings.limit, settings.force⟩

namespace RunState

def plain (state : RunState (σ × List CacheEntry)) : RunState σ :=
  ⟨state.calculator, state.held.1⟩

variable (settings : RunSettings σ) (progress : Progress) (key : CacheKey) (job : Job)
variable (state : RunState (σ × List CacheEntry))

end RunState

namespace Run

variable (settings : RunSettings σ)

def plain (run : Run (σ × List CacheEntry)) : Run σ :=
  ⟨run.summary, run.fatal, run.state.plain⟩

def journaled (run : Run σ) : Run (σ × List CacheEntry) :=
  ⟨run.summary, run.fatal, run.state.calculator, run.state.held, []⟩

/-- The entries that a run puts into its store, in their order. -/
def stored (run : Run σ) (turns : List (Job × Progress)) : List CacheEntry :=
  (run.journaled.follow settings.journaled turns).state.held.2

theorem follow_concat (run : Run σ) (turns : List (Job × Progress)) (turn : Job × Progress) :
    run.follow settings (turns ++ [turn]) =
      (run.follow settings turns).step settings turn.1 turn.2 := by
  rw [follow, List.foldl_append]
  rfl

end Run

theorem RunSummary.add_cancelled {summary : RunSummary} {outcome : PairOutcome}
    (none : (summary.add outcome).cancelled = 0) :
    summary.cancelled = 0 ∧ outcome ≠ .cancelled ∧ ∀ failure, outcome ≠ .fatal failure := by
  cases outcome with
  | cancelled => exact nomatch none
  | fatal failure => exact nomatch none
  | _ => exact ⟨none, nofun, nofun⟩

end Resemblance
