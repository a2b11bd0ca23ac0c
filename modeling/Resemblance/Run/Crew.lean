import Resemblance.Run

/-!
Crews: the pairs of a run shared by several workers. Every access to what the pairs have in common
is a step of its own, and steps of different pairs are taken in any order: the start of the next
pair, a step of a pair, the deadline of a pair, what its worker still does after that, the end of a
pair, and a cancellation from outside.
-/

namespace Resemblance

/-- How far a pair has come. -/
inductive Stage where
  | started
  | keyed (key : CacheKey)
  | missed (key : CacheKey)
  /-- There is a record, which is not claimed for the store yet. -/
  | compared (key : CacheKey) (record : Record) (outcome : PairOutcome)
  | claimed (key : CacheKey) (record : Record) (outcome : PairOutcome)
  /-- The pair has failed, and its failure is to be recorded. -/
  | failing (key : CacheKey) (kind : PairFailureKind) (failure : Failure)
  | ended (outcome : PairOutcome)

namespace Stage

variable {σ : Type}

def ofRefusal (key : CacheKey) (refusal : Failure) : Stage :=
  if refusal.isFatal then .ended (.fatal refusal) else .failing key .internal refusal

def compare (job : Job) (key : CacheKey) (state : RunState σ) : Stage × RunState σ :=
  match job.reference, job.candidate with
  | .ok reference, .ok candidate =>
      let (comparison, calculator) :=
        state.calculator.compareWith reference.source reference.fingerprint candidate.source
          candidate.fingerprint
      let stage :=
        match comparison.result with
        | .ok record => Stage.compared key record .computed
        | .error detail =>
            .failing key .internal (.internal s!"comparison worker failed: {detail}")
      (stage, { state with calculator })
  | .error failure, _ | _, .error failure =>
      let record := Record.ofFailure state.calculator.now failure
      (.compared key record (.failed ⟨key.reference, key.candidate, .input, record⟩), state)

/-- The next stage of a pair. A cancelled run starts no pair and claims no record. -/
def advance (settings : RunSettings σ) (cancelled : Bool) (job : Job) (state : RunState σ) :
    Stage → Stage × RunState σ
  | .started =>
      if cancelled then (.ended .cancelled, state)
      else
        match job.key settings.store.version with
        | .ok key => (.keyed key, state)
        | .error failure =>
            (.ended (.failed ⟨job.referenceId, job.candidateId, .internal,
              .ofFailure state.calculator.now failure⟩), state)
  | .keyed key =>
      if settings.force then (.missed key, state)
      else
        match settings.store.get key state.held with
        | .ok (some _) => (.ended .cacheHit, state)
        | .ok none => (.missed key, state)
        | .error refusal => (ofRefusal key refusal, state)
  | .missed key => compare job key state
  | .compared key record outcome =>
      if cancelled then (.ended .cancelled, state) else (.claimed key record outcome, state)
  | .claimed key record outcome =>
      match settings.store.put key record state.held with
      | .ok held => (.ended outcome, { state with held })
      | .error refusal => (ofRefusal key refusal, state)
  | .failing key kind failure =>
      let (outcome, state) := state.settleFailure settings key kind failure
      (.ended outcome, state)
  | .ended outcome => (.ended outcome, state)

end Stage

/-- A run that is shared by several workers: the pairs that are not started, those under way, those
given up at their deadline while their comparison may go on, and the outcomes noticed so far. -/
structure Crew (σ : Type) where
  waiting : List Job
  active : List (Job × Stage) := []
  late : List (Job × CacheKey) := []
  log : List (Job × PairOutcome) := []
  cancelled : Bool
  run : Run σ

/-- What can happen next; pairs are named by their places. -/
inductive CrewEvent where
  | start
  | advance (place : Nat)
  /-- The time of a pair is over. Once a record is claimed, that is no longer of interest. -/
  | deadline (place : Nat)
  /-- The comparison of a pair that was given up comes to its end. -/
  | linger (place : Nat)
  /-- The end of a pair is noticed. -/
  | collect (place : Nat)
  | cancel

def PairOutcome.isFatal : PairOutcome → Bool
  | fatal _ => true
  | _ => false

def Run.note {σ : Type} (run : Run σ) (outcome : PairOutcome) : Run σ :=
  { run with summary := run.summary.add outcome, fatal := fatalAfter run.fatal outcome }

namespace Crew

variable {σ : Type}

/-- A crew that has taken on some pairs, for a run that may be cancelled already. -/
def ofJobs (jobs : List Job) (state : RunState σ) (cancelled : Bool) : Crew σ :=
  { waiting := jobs, cancelled, run := .start jobs state }

def step (settings : RunSettings σ) (workers : Nat) (crew : Crew σ) : CrewEvent → Crew σ
  | .start =>
      match crew.waiting with
      | [] => crew
      | job :: waiting =>
          if crew.active.length < max workers 1 then
            { crew with waiting, active := crew.active ++ [(job, .started)] }
          else crew
  | .advance place =>
      match crew.active[place]? with
      | none => crew
      | some (job, stage) =>
          let (stage, state) := stage.advance settings crew.cancelled job crew.run.state
          { crew with active := crew.active.set place (job, stage), run := { crew.run with state } }
  | .deadline place =>
      match crew.active[place]? with
      | some (job, .keyed key) | some (job, .missed key) =>
          let failure := RunState.timeoutOf settings.limit key
          { crew with
            active := crew.active.set place (job, .failing key .timeout failure)
            late := crew.late ++ [(job, key)] }
      | some (job, .compared key _ _) =>
          let failure := RunState.timeoutOf settings.limit key
          { crew with active := crew.active.set place (job, .failing key .timeout failure) }
      | _ => crew
  | .linger place =>
      match crew.late[place]? with
      | none => crew
      | some (job, key) =>
          let (_, state) := Stage.compare job key crew.run.state
          { crew with late := crew.late.eraseIdx place, run := { crew.run with state } }
  | .collect place =>
      match crew.active[place]? with
      | some (job, .ended outcome) =>
          { crew with
            active := crew.active.eraseIdx place
            log := crew.log ++ [(job, outcome)]
            cancelled := crew.cancelled || outcome.isFatal
            run := crew.run.note outcome }
      | _ => crew
  | .cancel => { crew with cancelled := true }

def follow (settings : RunSettings σ) (workers : Nat) (crew : Crew σ) (events : List CrewEvent) :
    Crew σ :=
  events.foldl (fun crew event => crew.step settings workers event) crew

def finished (crew : Crew σ) : Bool :=
  crew.waiting.isEmpty && crew.active.isEmpty

/-- The failure with which the store refuses an access, if the next event is one that it refuses. -/
def refusal? (settings : RunSettings σ) (crew : Crew σ) : CrewEvent → Option Failure
  | .advance place =>
      let held := crew.run.state.held
      match crew.active[place]? with
      | some (_, .keyed key) =>
          if settings.force then none
          else
            match settings.store.get key held with
            | .ok _ => none
            | .error refusal => some refusal
      | some (_, .claimed key record _) =>
          match settings.store.put key record held with
          | .ok _ => none
          | .error refusal => some refusal
      | some (_, .failing key _ failure) =>
          match settings.store.put key (.ofFailure crew.run.state.calculator.now failure) held with
          | .ok _ => none
          | .error refusal => some refusal
      | _ => none
  | _ => none

end Crew
end Resemblance
