import Resemblance.Artifact.Source
import Resemblance.Cache.Store
import Resemblance.Calculator

/-!
Runs: every ordered pair of artifacts within a bucket is compared, or served from a store. A pair
that fails is recorded as failed and leaves the other pairs alone; only a failure of the store's own
storage ends a run.
-/

namespace Resemblance

inductive PairFailureKind where
  | input
  | timeout
  | internal
  deriving DecidableEq, Repr

def PairFailureKind.name : PairFailureKind → String
  | input => "input"
  | timeout => "timeout"
  | internal => "internal"

/-- A pair that ended in failure, with the record of it. -/
structure PairFailure where
  reference : ArtifactId
  candidate : ArtifactId
  kind : PairFailureKind
  record : Record

def PairFailure.le (a b : PairFailure) : Bool :=
  if a.reference = b.reference then a.candidate.le b.candidate else a.reference.le b.reference

inductive PairOutcome where
  | cacheHit
  | computed
  | failed (failure : PairFailure)
  | cancelled
  /-- The run must end. -/
  | fatal (failure : Failure)

abbrev LoadedArtifact := Except Failure Artifact

def fingerprintOf : LoadedArtifact → String
  | .ok artifact => artifact.fingerprint
  | .error _ => unreadableFingerprint

structure Job where
  referenceId : ArtifactId
  candidateId : ArtifactId
  reference : LoadedArtifact
  candidate : LoadedArtifact

namespace Job

def key (job : Job) (version : String) : Except Failure CacheKey :=
  CacheKey.ofParts job.referenceId job.candidateId (fingerprintOf job.reference)
    (fingerprintOf job.candidate) version

def ofBucket (files : FileTree) (bucket : Bucket) : List Job :=
  let loaded := bucket.members.map fun location => (location.id, Artifact.load files location)
  bucket.orderedPairs.filterMap fun pair =>
    match loaded[pair.1]?, loaded[pair.2]? with
    | some (referenceId, reference), some (candidateId, candidate) =>
        some { referenceId, candidateId, reference, candidate }
    | _, _ => none

def ofLocations (files : FileTree) (locations : List ArtifactLocation) : List Job :=
  (Bucket.group locations).flatMap (ofBucket files)

end Job

/-- How far a pair comes before the run is stopped. -/
inductive Progress where
  | unstarted
  /-- The pair is compared, but its record is no longer wanted. -/
  | unsettled
  | whole
  deriving DecidableEq, Repr

/-- What all pairs of a run have in common. -/
structure RunSettings (σ : Type) where
  store : Store σ
  /-- The time that one comparison may take. -/
  limit : Duration
  /-- Whether records that are held already are computed again. -/
  force : Bool

structure RunState (σ : Type) where
  calculator : Calculator
  held : σ

namespace RunState

variable {σ : Type}

/-- The least time that a pair takes which is not served from the store. -/
def leastTime : Duration := ⟨1⟩

def settleFailure (settings : RunSettings σ) (key : CacheKey) (kind : PairFailureKind)
    (failure : Failure) (state : RunState σ) : PairOutcome × RunState σ :=
  let record := Record.ofFailure state.calculator.now failure
  let outcome := PairOutcome.failed ⟨key.reference, key.candidate, kind, record⟩
  match settings.store.put key record state.held with
  | .ok held => (outcome, { state with held })
  | .error refusal => if refusal.isFatal then (.fatal refusal, state) else (outcome, state)

def settleRefusal (settings : RunSettings σ) (key : CacheKey) (refusal : Failure)
    (state : RunState σ) : PairOutcome × RunState σ :=
  if refusal.isFatal then (.fatal refusal, state)
  else settleFailure settings key .internal refusal state

def settle (settings : RunSettings σ) (progress : Progress) (key : CacheKey) (record : Record)
    (outcome : PairOutcome) (state : RunState σ) : PairOutcome × RunState σ :=
  if progress = .whole then
    match settings.store.put key record state.held with
    | .ok held => (outcome, { state with held })
    | .error refusal => settleRefusal settings key refusal state
  else (.cancelled, state)

def timeoutOf (limit : Duration) (key : CacheKey) : Failure :=
  .timeout s!"comparison {key.reference.write} -> {key.candidate.write}" (limit.millis / 1000)

def compute (settings : RunSettings σ) (progress : Progress) (key : CacheKey) (job : Job)
    (state : RunState σ) : PairOutcome × RunState σ :=
  match job.reference, job.candidate with
  | .ok reference, .ok candidate =>
      let (comparison, calculator) :=
        state.calculator.compareWith reference.source reference.fingerprint candidate.source
          candidate.fingerprint
      let state := { state with calculator }
      if settings.limit.millis < leastTime.millis + comparison.time.millis then
        settleFailure settings key .timeout (timeoutOf settings.limit key) state
      else
        match comparison.result with
        | .ok record => settle settings progress key record .computed state
        | .error detail =>
            settleFailure settings key .internal
              (.internal s!"comparison worker failed: {detail}") state
  | .error failure, _ | _, .error failure =>
      if settings.limit.millis < leastTime.millis then
        settleFailure settings key .timeout (timeoutOf settings.limit key) state
      else
        let record := Record.ofFailure state.calculator.now failure
        settle settings progress key record
          (.failed ⟨key.reference, key.candidate, .input, record⟩) state

def serve (settings : RunSettings σ) (progress : Progress) (key : CacheKey) (job : Job)
    (state : RunState σ) : PairOutcome × RunState σ :=
  if settings.force then compute settings progress key job state
  else
    match settings.store.get key state.held with
    | .ok (some _) => (.cacheHit, state)
    | .ok none => compute settings progress key job state
    | .error refusal => settleRefusal settings key refusal state

def process (settings : RunSettings σ) (progress : Progress) (job : Job) (state : RunState σ) :
    PairOutcome × RunState σ :=
  if progress = .unstarted then (.cancelled, state)
  else
    match job.key settings.store.version with
    | .ok key => serve settings progress key job state
    | .error failure =>
        (.failed ⟨job.referenceId, job.candidateId, .internal,
          .ofFailure state.calculator.now failure⟩, state)

end RunState

structure RunSummary where
  attempted : Nat
  cacheHits : Nat := 0
  computed : Nat := 0
  errors : Nat := 0
  cancelled : Nat := 0
  failures : List PairFailure := []

namespace RunSummary

def add (summary : RunSummary) : PairOutcome → RunSummary
  | .cacheHit => { summary with cacheHits := summary.cacheHits + 1 }
  | .computed => { summary with computed := summary.computed + 1 }
  | .failed failure =>
      { summary with errors := summary.errors + 1, failures := summary.failures ++ [failure] }
  | .cancelled => { summary with cancelled := summary.cancelled + 1 }
  | .fatal _ => { summary with cancelled := summary.cancelled + 1 }

end RunSummary

/-- A run under way: what was counted so far, and the failure that ends it. -/
structure Run (σ : Type) where
  summary : RunSummary
  fatal : Option Failure := none
  state : RunState σ

namespace Run

variable {σ : Type}

/-- The failure that ends a run after one more outcome; the first one counts. -/
def fatalAfter : Option Failure → PairOutcome → Option Failure
  | none, .fatal failure => some failure
  | fatal, _ => fatal

def step (settings : RunSettings σ) (run : Run σ) (job : Job) (progress : Progress) : Run σ :=
  let (outcome, state) := run.state.process settings progress job
  { summary := run.summary.add outcome, fatal := fatalAfter run.fatal outcome, state }

/-- Takes pairs in the order in which they are done, each as far as it comes. -/
def follow (settings : RunSettings σ) (run : Run σ) (turns : List (Job × Progress)) : Run σ :=
  turns.foldl (fun run turn => run.step settings turn.1 turn.2) run

/-- Takes pairs one after the other. Once the run has to end, or if it was cancelled beforehand,
none is started. -/
def sequential (settings : RunSettings σ) (cancelled : Bool) (run : Run σ)
    (jobs : List Job) : Run σ :=
  jobs.foldl
    (fun run job =>
      run.step settings job (if cancelled || run.fatal.isSome then .unstarted else .whole))
    run

def start (jobs : List Job) (state : RunState σ) : Run σ :=
  { summary := { attempted := jobs.length }, state }

def result (run : Run σ) : Except Failure RunSummary :=
  match run.fatal with
  | some failure => .error failure
  | none =>
      .ok { run.summary with failures := run.summary.failures.mergeSort PairFailure.le }

end Run
end Resemblance
