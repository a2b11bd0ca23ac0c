import Resemblance.Proofs.Discovery
import Resemblance.Proofs.OrderedPairs
import Resemblance.Proofs.Verdicts
import Resemblance.Run.Crew

/-!
Crews count every pair once. A pair is waiting, under way, or in the log of outcomes, and no step
loses or doubles one; so whatever order the steps are taken in, the counts of a finished crew add up
to its pairs, and one fatal outcome among them ends the run in failure.
-/

namespace Resemblance

variable {σ : Type} {settings : RunSettings σ} {job : Job} {key : CacheKey}

namespace PairOutcome

def isCacheHit : PairOutcome → Bool
  | cacheHit => true
  | _ => false

def isComputed : PairOutcome → Bool
  | computed => true
  | _ => false

def isCancelled : PairOutcome → Bool
  | cancelled => true
  | _ => false

def failure? : PairOutcome → Option PairFailure
  | failed failure => some failure
  | _ => none

def fatal? : PairOutcome → Option Failure
  | fatal failure => some failure
  | _ => none

end PairOutcome

/-- An outcome that a pair can have: a pair is served from the store unless that is ruled out, a
failure is that of its own artifacts, and only the store ends a run. -/
def PairOutcome.Fits (settings : RunSettings σ) (job : Job) : PairOutcome → Prop
  | cacheHit => settings.force = false
  | computed => True
  | failed failure => failure.reference = job.referenceId ∧ failure.candidate = job.candidateId
  | cancelled => True
  | fatal failure => failure.isFatal = true

theorem PairOutcome.unforced_of_cache_hit {outcome : PairOutcome} (fits : outcome.Fits settings job)
    (isHit : outcome.isCacheHit = true) : settings.force = false := by
  cases outcome with
  | cacheHit => exact fits
  | _ => exact nomatch isHit

namespace Stage

def Fits (settings : RunSettings σ) (job : Job) : Stage → Prop
  | started => True
  | keyed key | missed key | failing key _ _ => job.key settings.store.version = .ok key
  | compared key _ outcome | claimed key _ outcome =>
      job.key settings.store.version = .ok key ∧ outcome.Fits settings job
  | ended outcome => outcome.Fits settings job

theorem of_refusal_fits (keyed : job.key settings.store.version = .ok key) (refusal : Failure) :
    (ofRefusal key refusal).Fits settings job := by
  unfold ofRefusal
  split
  next fatal => exact fatal
  next => exact keyed

theorem settle_failure_fits (keyed : job.key settings.store.version = .ok key)
    (kind : PairFailureKind) (failure : Failure) (state : RunState σ) :
    (state.settleFailure settings key kind failure).1.Fits settings job := by
  unfold RunState.settleFailure
  dsimp only
  split
  next => exact Job.key_ids keyed
  next =>
    split
    next fatal => exact fatal
    next => exact Job.key_ids keyed

theorem compare_fits (keyed : job.key settings.store.version = .ok key) (state : RunState σ) :
    (compare job key state).1.Fits settings job := by
  rw [compare.eq_def]
  split
  next reference candidate _ _ =>
    cases result :
      (state.calculator.compareWith reference.source reference.fingerprint candidate.source
        candidate.fingerprint).1.result with
    | ok record =>
        simp only [result]
        exact ⟨keyed, trivial⟩
    | error detail =>
        simp only [result]
        exact keyed
  next => exact ⟨keyed, Job.key_ids keyed⟩
  next => exact ⟨keyed, Job.key_ids keyed⟩

/-- One step of a pair, one case for each stage. -/
theorem advance_fits {stage : Stage} (fits : stage.Fits settings job) (cancelled : Bool)
    (state : RunState σ) : (stage.advance settings cancelled job state).1.Fits settings job := by
  cases stage with
  | started =>
      unfold advance
      cases cancelled with
      | true => exact trivial
      | false =>
          cases keyed : job.key settings.store.version with
          | ok key => exact keyed
          | error failure => exact ⟨rfl, rfl⟩
  | keyed key =>
      unfold advance
      cases force : settings.force with
      | true => exact fits
      | false =>
          dsimp only
          cases settings.store.get key state.held with
          | error refusal => exact of_refusal_fits fits refusal
          | ok found =>
              cases found with
              | none => exact fits
              | some record => exact force
  | missed key => exact compare_fits fits state
  | compared key record outcome =>
      unfold advance
      cases cancelled with
      | true => exact trivial
      | false => exact fits
  | claimed key record outcome =>
      unfold advance
      dsimp only
      cases settings.store.put key record state.held with
      | error refusal => exact of_refusal_fits fits.1 refusal
      | ok held => exact fits.2
  | failing key kind failure => exact settle_failure_fits fits kind failure state
  | ended outcome => exact fits

end Stage

namespace Crew

variable {workers : Nat} {crew after : Crew σ} {jobs : List Job}

/-- What one event can do to the pairs of a crew: nothing, or it starts the next one, takes one that
is under way to another stage, or notices the end of one. -/
inductive Turn (settings : RunSettings σ) (crew after : Crew σ) : Prop where
  | idle (waiting : after.waiting = crew.waiting) (active : after.active = crew.active)
      (log : after.log = crew.log) (summary : after.run.summary = crew.run.summary)
      (fatal : after.run.fatal = crew.run.fatal)
  | started (job : Job) (waiting : crew.waiting = job :: after.waiting)
      (active : after.active = crew.active ++ [(job, .started)]) (log : after.log = crew.log)
      (summary : after.run.summary = crew.run.summary) (fatal : after.run.fatal = crew.run.fatal)
  | moved (job : Job) (stage next : Stage) (others : List (Job × Stage))
      (waiting : after.waiting = crew.waiting) (own : crew.active.Perm ((job, stage) :: others))
      (active : after.active.Perm ((job, next) :: others)) (log : after.log = crew.log)
      (summary : after.run.summary = crew.run.summary) (fatal : after.run.fatal = crew.run.fatal)
      (fits : stage.Fits settings job → next.Fits settings job)
      (stays : ∀ outcome, stage = .ended outcome → next = .ended outcome)
  | collected (job : Job) (outcome : PairOutcome) (waiting : after.waiting = crew.waiting)
      (own : crew.active.Perm ((job, .ended outcome) :: after.active))
      (log : after.log = crew.log ++ [(job, outcome)])
      (run : after.run = crew.run.note outcome)

section Places

variable {entries : List (Job × Stage)} {place : Nat} {entry : Job × Stage}

theorem perm_of_place (here : entries[place]? = some entry) :
    entries.Perm (entry :: entries.eraseIdx place) := by
  obtain ⟨inside, rfl⟩ := List.getElem?_eq_some_iff.1 here
  exact (List.getElem_cons_eraseIdx_perm inside).symm

theorem set_perm_of_place (here : entries[place]? = some entry) (next : Job × Stage) :
    (entries.set place next).Perm (next :: entries.eraseIdx place) := by
  obtain ⟨inside, -⟩ := List.getElem?_eq_some_iff.1 here
  exact List.set_perm_cons_eraseIdx inside next

end Places

theorem Turn.of_place {place : Nat} {stage : Stage} (next : Stage)
    (here : crew.active[place]? = some (job, stage))
    (fits : stage.Fits settings job → next.Fits settings job)
    (stays : ∀ outcome, stage = .ended outcome → next = .ended outcome)
    (late : List (Job × CacheKey))
    (state : RunState σ) :
    Turn settings crew
      { crew with
        active := crew.active.set place (job, next)
        late
        run := { crew.run with state } } :=
  .moved job stage next (crew.active.eraseIdx place) rfl (perm_of_place here)
    (set_perm_of_place here _) rfl rfl rfl fits stays

/-- Everything that a step can do. -/
theorem step_turn (settings : RunSettings σ) (workers : Nat) (crew : Crew σ) (event : CrewEvent) :
    Turn settings crew (crew.step settings workers event) := by
  have idle : Turn settings crew crew := .idle rfl rfl rfl rfl rfl
  cases event with
  | start =>
      unfold step
      dsimp only
      cases waiting : crew.waiting with
      | nil => exact idle
      | cons job rest =>
          dsimp only
          split
          next free => exact .started job waiting rfl rfl rfl rfl
          next => exact idle
  | advance place =>
      unfold step
      dsimp only
      cases here : crew.active[place]? with
      | none => exact idle
      | some entry =>
          obtain ⟨job, stage⟩ := entry
          apply Turn.of_place _ here (fun fits =>
            Stage.advance_fits fits crew.cancelled crew.run.state)
          rintro outcome rfl
          rfl
  | deadline place =>
      unfold step
      dsimp only
      split
      next job key here =>
        generalize RunState.timeoutOf settings.limit key = failure
        exact Turn.of_place (.failing key .timeout failure) here id (fun _ => Stage.noConfusion) _
          crew.run.state
      next job key here =>
        generalize RunState.timeoutOf settings.limit key = failure
        exact Turn.of_place (.failing key .timeout failure) here id (fun _ => Stage.noConfusion) _
          crew.run.state
      next job key record outcome here =>
        generalize RunState.timeoutOf settings.limit key = failure
        exact Turn.of_place (.failing key .timeout failure) here And.left
          (fun _ => Stage.noConfusion)
          crew.late crew.run.state
      next => exact idle
  | linger place =>
      unfold step
      dsimp only
      cases crew.late[place]? with
      | none => exact idle
      | some entry => exact .idle rfl rfl rfl rfl rfl
  | collect place =>
      unfold step
      dsimp only
      split
      next job outcome here => exact .collected job outcome rfl (perm_of_place here) rfl rfl
      next => exact idle
  | cancel => exact .idle rfl rfl rfl rfl rfl

def outcomes (crew : Crew σ) : List PairOutcome :=
  crew.log.map Prod.snd

def pairs (crew : Crew σ) : List Job :=
  crew.log.map Prod.fst ++ crew.active.map Prod.fst ++ crew.waiting

/-- The books of a crew are in order: every pair is in one place, and what is counted are the
outcomes noticed. -/
structure Accounted (settings : RunSettings σ) (jobs : List Job) (crew : Crew σ) : Prop where
  pairs : crew.pairs.Perm jobs
  summary : crew.run.summary = crew.outcomes.foldl RunSummary.add { attempted := jobs.length }
  fatal : crew.run.fatal = crew.outcomes.foldl Run.fatalAfter none
  active : ∀ entry ∈ crew.active, entry.2.Fits settings entry.1
  log : ∀ entry ∈ crew.log, entry.2.Fits settings entry.1

theorem accounted_of_jobs (settings : RunSettings σ) (jobs : List Job) (state : RunState σ)
    (cancelled : Bool) : Accounted settings jobs (ofJobs jobs state cancelled) where
  pairs := List.Perm.refl jobs
  summary := rfl
  fatal := rfl
  active _ := nofun
  log _ := nofun

/-- As long as no outcome is noticed, the books stay in order if no pair is lost and all stages
fit. -/
theorem Accounted.unnoticed (accounted : Accounted settings jobs crew) (log : after.log = crew.log)
    (summary : after.run.summary = crew.run.summary) (fatal : after.run.fatal = crew.run.fatal)
    (kept : (after.active.map Prod.fst ++ after.waiting).Perm
      (crew.active.map Prod.fst ++ crew.waiting))
    (fitting : ∀ entry ∈ after.active, entry.2.Fits settings entry.1) :
    Accounted settings jobs after where
  pairs := by
    refine List.Perm.trans ?_ accounted.pairs
    rw [Crew.pairs, Crew.pairs, log, List.append_assoc, List.append_assoc]
    exact kept.append_left _
  summary := by
    rw [summary, outcomes, log]
    exact accounted.summary
  fatal := by
    rw [fatal, outcomes, log]
    exact accounted.fatal
  active := fitting
  log := log ▸ accounted.log

theorem Accounted.turn (accounted : Accounted settings jobs crew)
    (turn : Turn settings crew after) :
    Accounted settings jobs after := by
  cases turn with
  | idle waiting active log summary fatal =>
      apply accounted.unnoticed log summary fatal
      · rw [active, waiting]
      · rw [active]
        exact accounted.active
  | started job waiting active log summary fatal =>
      apply accounted.unnoticed log summary fatal
      · simp [active, waiting]
      · rw [active, List.forall_mem_append, List.forall_mem_singleton]
        exact ⟨accounted.active, trivial⟩
  | moved job stage next others waiting own active log summary fatal fits stays =>
      have fitting := accounted.active
      simp only [own.mem_iff, List.forall_mem_cons] at fitting
      apply accounted.unnoticed log summary fatal
      · rw [waiting]
        exact ((active.map Prod.fst).trans (own.map Prod.fst).symm).append_right _
      · simp only [active.mem_iff, List.forall_mem_cons]
        exact fitting.imp_left fits
  | collected job outcome waiting own log run =>
      have fitting := accounted.active
      simp only [own.mem_iff, List.forall_mem_cons] at fitting
      refine ⟨?_, ?_, ?_, fitting.2, ?_⟩
      · have same : (job :: after.active.map Prod.fst).Perm (crew.active.map Prod.fst) :=
          (own.map Prod.fst).symm
        have whole := (same.append_left (crew.log.map Prod.fst)).append_right crew.waiting
        refine List.Perm.trans ?_ accounted.pairs
        simpa [Crew.pairs, log, waiting] using whole
      · rw [run, outcomes, log, List.map_append, List.foldl_append, ← outcomes, ← accounted.summary]
        rfl
      · rw [run, outcomes, log, List.map_append, List.foldl_append, ← outcomes, ← accounted.fatal]
        rfl
      · rw [log, List.forall_mem_append, List.forall_mem_singleton]
        exact ⟨accounted.log, fitting.1⟩

/-- The books stay in order whatever happens in whatever order. -/
theorem Accounted.follow (accounted : Accounted settings jobs crew) (workers : Nat)
    (events : List CrewEvent) : Accounted settings jobs (crew.follow settings workers events) := by
  induction events generalizing crew with
  | nil => exact accounted
  | cons event rest ih => exact ih (accounted.turn (step_turn settings workers crew event))

theorem follow_append (start : Crew σ) (before : List CrewEvent) (event : CrewEvent)
    (rest : List CrewEvent) :
    start.follow settings workers (before ++ event :: rest) =
      ((start.follow settings workers before).step settings workers event).follow
        settings workers rest := by
  rw [follow, List.foldl_append, List.foldl_cons]
  rfl

/-- The end of a run is in store: the store has refused an access for good. -/
def Doomed (crew : Crew σ) : Prop :=
  ∃ job failure, (job, .ended (.fatal failure)) ∈ crew.active ∨ (job, .fatal failure) ∈ crew.log

theorem Doomed.turn (doomed : Doomed crew) (turn : Turn settings crew after) : Doomed after := by
  obtain ⟨job, failure, doomed⟩ := doomed
  cases turn with
  | idle waiting active log => exact ⟨job, failure, by rwa [active, log]⟩
  | started own waiting active log =>
      refine ⟨job, failure, doomed.imp (fun member => ?_) fun member => by rwa [log]⟩
      rw [active]
      exact List.mem_append_left _ member
  | moved own stage next others waiting before active log summary fatal fits stays =>
      refine ⟨job, failure, doomed.imp (fun member => ?_) fun member => by rwa [log]⟩
      rw [active.mem_iff]
      rcases List.mem_cons.1 (before.mem_iff.1 member) with same | member
      · obtain ⟨rfl, rfl⟩ := Prod.mk.inj same
        rw [stays _ rfl]
        exact List.mem_cons_self
      · exact List.mem_cons_of_mem _ member
  | collected own outcome waiting before log run =>
      refine ⟨job, failure, ?_⟩
      rw [log]
      rcases doomed with member | member
      · rcases List.mem_cons.1 (before.mem_iff.1 member) with same | member
        · obtain ⟨rfl, ended⟩ := Prod.mk.inj same
          obtain rfl := Stage.ended.inj ended
          exact .inr (List.mem_append_right _ List.mem_cons_self)
        · exact .inl member
      · exact .inr (List.mem_append_left _ member)

theorem Doomed.follow (doomed : Doomed crew) (workers : Nat) (events : List CrewEvent) :
    Doomed (crew.follow settings workers events) := by
  induction events generalizing crew with
  | nil => exact doomed
  | cons event rest ih => exact ih (doomed.turn (step_turn settings workers crew event))

theorem advance_of_refusal {place : Nat} {refusal : Failure}
    (refused : crew.refusal? settings (.advance place) = some refusal)
    (fatal : refusal.isFatal = true) :
    ∃ job stage, crew.active[place]? = some (job, stage) ∧
      (stage.advance settings crew.cancelled job crew.run.state).1 = .ended (.fatal refusal) := by
  unfold refusal? at refused
  dsimp only at refused
  split at refused
  next job key here =>
    refine ⟨job, .keyed key, here, ?_⟩
    cases force : settings.force with
    | true => simp [force] at refused
    | false =>
        cases found : settings.store.get key crew.run.state.held with
        | ok found => simp [force, found] at refused
        | error own =>
            obtain rfl : own = refusal := by simpa [force, found] using refused
            simp [Stage.advance, force, found, Stage.ofRefusal, fatal]
  next job key record outcome here =>
    refine ⟨job, .claimed key record outcome, here, ?_⟩
    cases put : settings.store.put key record crew.run.state.held with
    | ok held => simp [put] at refused
    | error own =>
        obtain rfl : own = refusal := by simpa [put] using refused
        simp [Stage.advance, put, Stage.ofRefusal, fatal]
  next job key kind failure here =>
    refine ⟨job, .failing key kind failure, here, ?_⟩
    cases put : settings.store.put key (.ofFailure crew.run.state.calculator.now failure)
        crew.run.state.held with
    | ok held => simp [put] at refused
    | error own =>
        obtain rfl : own = refusal := by simpa [put] using refused
        simp [Stage.advance, RunState.settleFailure, put, fatal]
  next => cases refused

theorem doomed_of_refusal {event : CrewEvent} {refusal : Failure} (workers : Nat)
    (refused : crew.refusal? settings event = some refusal) (fatal : refusal.isFatal = true) :
    Doomed (crew.step settings workers event) := by
  cases event with
  | advance place =>
      obtain ⟨job, stage, here, ends⟩ := advance_of_refusal refused fatal
      refine ⟨job, refusal, .inl ?_⟩
      unfold step
      dsimp only
      rw [here]
      dsimp only
      rw [ends, (set_perm_of_place here _).mem_iff]
      exact List.mem_cons_self
  | start => cases refused
  | deadline place => cases refused
  | linger place => cases refused
  | collect place => cases refused
  | cancel => cases refused

end Crew

section Counts

/-- The first fatal outcome ends a run. -/
theorem Run.fatal_fold (outcomes : List PairOutcome) (fatal : Option Failure) :
    outcomes.foldl Run.fatalAfter fatal = fatal.or (outcomes.findSome? PairOutcome.fatal?) := by
  induction outcomes generalizing fatal with
  | nil => cases fatal <;> rfl
  | cons outcome rest ih =>
      rw [List.foldl_cons, ih]
      cases fatal with
      | some failure => rfl
      | none => cases outcome <;> rfl

/-- A summary of some outcomes, each of which is counted once. -/
structure RunSummary.Counts (outcomes : List PairOutcome) (summary : RunSummary) : Prop where
  cacheHits : summary.cacheHits = outcomes.countP PairOutcome.isCacheHit
  computed : summary.computed = outcomes.countP PairOutcome.isComputed
  errors : summary.errors = (outcomes.filterMap PairOutcome.failure?).length
  cancelled : summary.cancelled =
    outcomes.countP PairOutcome.isCancelled + outcomes.countP PairOutcome.isFatal
  failures : summary.failures = outcomes.filterMap PairOutcome.failure?

theorem RunSummary.Counts.add {outcomes : List PairOutcome} {summary : RunSummary}
    (counts : summary.Counts outcomes) (outcome : PairOutcome) :
    (summary.add outcome).Counts (outcomes ++ [outcome]) := by
  obtain ⟨cacheHits, computed, errors, cancelled, failures⟩ := counts
  cases outcome <;> constructor <;>
    simp [RunSummary.add, PairOutcome.isCacheHit, PairOutcome.isComputed, PairOutcome.isCancelled,
      PairOutcome.isFatal, PairOutcome.failure?, *]
  all_goals omega

theorem RunSummary.add_attempted (summary : RunSummary) (outcome : PairOutcome) :
    (summary.add outcome).attempted = summary.attempted := by
  cases outcome <;> rfl

theorem RunSummary.counts_of_fold (attempted : Nat) (outcomes : List PairOutcome) :
    (outcomes.foldl RunSummary.add { attempted }).Counts outcomes ∧
      (outcomes.foldl RunSummary.add { attempted }).attempted = attempted := by
  induction outcomes using List.reverseRecOn with
  | nil => exact ⟨⟨rfl, rfl, rfl, rfl, rfl⟩, rfl⟩
  | append_singleton outcomes outcome ih =>
      rw [List.foldl_append]
      exact ⟨ih.1.add outcome, (RunSummary.add_attempted _ outcome).trans ih.2⟩

theorem PairOutcome.count_fatal_eq_zero {outcomes : List PairOutcome}
    (none : outcomes.findSome? fatal? = none) : outcomes.countP isFatal = 0 := by
  rw [List.countP_eq_zero]
  intro outcome member fatal
  have absent := List.findSome?_eq_none_iff.1 none outcome member
  cases outcome with
  | fatal failure => exact nomatch absent
  | _ => exact nomatch fatal

/-- The kinds of outcomes exclude each other, and there is no other. -/
theorem PairOutcome.length_eq_counts (outcomes : List PairOutcome) :
    outcomes.length = outcomes.countP isCacheHit + outcomes.countP isComputed +
      (outcomes.filterMap failure?).length +
        (outcomes.countP isCancelled + outcomes.countP isFatal) := by
  induction outcomes with
  | nil => rfl
  | cons outcome rest ih =>
      rw [List.length_cons, ih]
      cases outcome <;>
        simp [List.countP_cons, List.filterMap_cons, isCacheHit, isComputed, isCancelled, isFatal,
          failure?] <;> omega

theorem Run.result_eq_error_iff {run : Run σ} {failure : Failure} :
    run.result = .error failure ↔ run.fatal = some failure := by
  rw [Run.result]
  cases run.fatal <;> simp

theorem Run.result_eq_ok_iff {run : Run σ} {summary : RunSummary} :
    run.result = .ok summary ↔ run.fatal = none ∧
      summary = { run.summary with failures := run.summary.failures.mergeSort PairFailure.le } := by
  rw [Run.result]
  cases run.fatal <;> simp [eq_comm]

end Counts

section Order

theorem ArtifactId.le_antisymm {id id' : ArtifactId} (first : id.le id' = true)
    (second : id'.le id = true) : id = id' := by
  rw [ArtifactId.le_iff] at first second
  rcases first with ⟨apart, le⟩ | ⟨same, inner⟩
  · rcases second with ⟨-, le'⟩ | ⟨same', -⟩
    · exact absurd (texts_le_antisymm le le') apart
    · exact absurd same'.symm apart
  · rcases second with ⟨apart', -⟩ | ⟨-, inner'⟩
    · exact absurd same.symm apart'
    · obtain ⟨iteration, model⟩ : id.iteration = id'.iteration ∧ id.model = id'.model := by
        rcases inner with less | ⟨iteration, le⟩
        · omega
        · rcases inner' with less | ⟨-, le'⟩
          · omega
          · exact ⟨iteration, String.le_antisymm le le'⟩
      simp only [ArtifactId.outer, List.cons.injEq, and_true] at same
      cases id
      cases id'
      simp_all

theorem PairFailure.le_iff (a b : PairFailure) : a.le b = true ↔
    a.reference = b.reference ∧ a.candidate.le b.candidate = true ∨
      a.reference ≠ b.reference ∧ a.reference.le b.reference = true := by
  unfold PairFailure.le
  split
  next same => simp [same]
  next apart => simp [apart]

theorem PairFailure.le_total (a b : PairFailure) : (a.le b || b.le a) = true := by
  rw [Bool.or_eq_true, PairFailure.le_iff, PairFailure.le_iff]
  by_cases same : a.reference = b.reference
  · exact (ArtifactId.le_total a.candidate b.candidate).imp (fun le => .inl ⟨same, le⟩)
      fun le => .inl ⟨same.symm, le⟩
  · exact (ArtifactId.le_total a.reference b.reference).imp (fun le => .inr ⟨same, le⟩)
      fun le => .inr ⟨Ne.symm same, le⟩

theorem PairFailure.le_trans (a b c : PairFailure) (first : a.le b = true)
    (second : b.le c = true) :
    a.le c = true := by
  rw [PairFailure.le_iff] at first second ⊢
  rcases first with ⟨same, le⟩ | ⟨apart, le⟩
  · rcases second with ⟨same', le'⟩ | ⟨apart', le'⟩
    · exact .inl ⟨same.trans same', ArtifactId.le_trans le le'⟩
    · exact .inr ⟨same ▸ apart', same ▸ le'⟩
  · rcases second with ⟨same', -⟩ | ⟨apart', le'⟩
    · exact .inr ⟨same' ▸ apart, same' ▸ le⟩
    · refine .inr ⟨fun same => apart ?_, ArtifactId.le_trans le le'⟩
      exact ArtifactId.le_antisymm le (same ▸ le')

theorem RunSummary.Counts.listed {outcomes : List PairOutcome} {summary : RunSummary}
    (counts : summary.Counts outcomes) (attempted : summary.attempted = outcomes.length)
    (endless : outcomes.findSome? PairOutcome.fatal? = none) :
    let failures := summary.failures.mergeSort PairFailure.le
    summary.attempted = summary.cacheHits + summary.computed + summary.errors + summary.cancelled ∧
      failures.length = summary.errors ∧
      failures.Pairwise (fun a b => a.le b = true) ∧
      summary.cancelled = outcomes.countP PairOutcome.isCancelled ∧
      failures.Perm (outcomes.filterMap PairOutcome.failure?) := by
  have fatal := PairOutcome.count_fatal_eq_zero endless
  have total := PairOutcome.length_eq_counts outcomes
  have sorted := List.mergeSort_perm summary.failures PairFailure.le
  refine ⟨?_, ?_, ?_, ?_, ?_⟩
  · rw [attempted, counts.cacheHits, counts.computed, counts.errors, counts.cancelled]
    exact total
  · rw [counts.errors, ← counts.failures]
    exact sorted.length_eq
  · exact List.pairwise_mergeSort PairFailure.le_trans PairFailure.le_total _
  · rw [counts.cancelled, fatal, Nat.add_zero]
  · exact counts.failures ▸ sorted

end Order

namespace Crew

variable {jobs : List Job} {crew : Crew σ}

theorem Accounted.finished (accounted : Accounted settings jobs crew)
    (finished : crew.finished = true) :
    (crew.log.map Prod.fst).Perm jobs ∧ crew.active = [] := by
  obtain ⟨waiting, active⟩ : crew.waiting = [] ∧ crew.active = [] := by
    simpa [Crew.finished] using finished
  exact ⟨by simpa [Crew.pairs, waiting, active] using accounted.pairs, active⟩

theorem Accounted.fatal_eq (accounted : Accounted settings jobs crew) :
    crew.run.fatal = crew.outcomes.findSome? PairOutcome.fatal? := by
  rw [accounted.fatal, Run.fatal_fold, Option.none_or]

theorem Accounted.no_cache_hits (accounted : Accounted settings jobs crew)
    (forced : settings.force = true) : crew.outcomes.countP PairOutcome.isCacheHit = 0 := by
  rw [List.countP_eq_zero]
  intro outcome member isHit
  obtain ⟨entry, logged, rfl⟩ := List.mem_map.1 member
  have unforced := PairOutcome.unforced_of_cache_hit (accounted.log entry logged) isHit
  cases forced.symm.trans unforced

/-- What must end the run has ended it once no pair is under way. -/
theorem Doomed.fatal (doomed : Doomed crew) (accounted : Accounted settings jobs crew)
    (active : crew.active = []) : ∃ failure, crew.run.fatal = some failure := by
  obtain ⟨job, failure, doomed⟩ := doomed
  rw [active] at doomed
  have member := doomed.resolve_left List.not_mem_nil
  rw [← Option.isSome_iff_exists, accounted.fatal_eq, List.isSome_findSome?, List.any_eq_true]
  exact ⟨.fatal failure, List.mem_map_of_mem member, rfl⟩

end Crew

/-- How many ordered pairs of members are of different iterations. -/
def Bucket.crossings (bucket : Bucket) : Nat :=
  (bucket.members.product bucket.members).countP fun pair =>
    pair.1.id.iteration != pair.2.id.iteration

theorem Job.of_bucket_crossings (files : FileTree) (bucket : Bucket) :
    (Job.ofBucket files bucket).length = bucket.crossings := by
  rw [Job.of_bucket_eq, List.length_flatMap, Bucket.crossings]
  change _ = List.countP _
    (bucket.members.flatMap fun reference => bucket.members.map (Prod.mk reference))
  rw [List.countP_flatMap]
  congr 1
  apply List.map_congr_left
  intro reference _
  rw [List.length_map, ← List.countP_eq_length_filter, Function.comp_apply, List.countP_map]
  rfl

theorem Job.of_locations_crossings (files : FileTree) (locations : List ArtifactLocation) :
    (Job.ofLocations files locations).length =
      ((Bucket.group locations).map Bucket.crossings).sum := by
  rw [Job.ofLocations, List.length_flatMap]
  congr 1
  apply List.map_congr_left
  intro bucket _
  exact Job.of_bucket_crossings files bucket

/-- The pairs of a finished crew, each with its one outcome, are those of the run. If the run
returns, its summary counts each of them once, by its outcome; if the store refuses an access of a
pair for good, whenever that is, it returns no summary but the first such refusal. -/
theorem every_pair_counts_once (settings : RunSettings σ) (workers : Nat) (files : FileTree)
    (locations : List ArtifactLocation) (state : RunState σ) (cancelled : Bool)
    (events : List CrewEvent)
    (finished :
      ((Crew.ofJobs (Job.ofLocations files locations) state cancelled).follow settings workers
      events).finished = true) :
    let start := Crew.ofJobs (Job.ofLocations files locations) state cancelled
    let crew := start.follow settings workers events
    (crew.log.map Prod.fst).Perm (Job.ofLocations files locations) ∧
      (∀ entry ∈ crew.log, entry.2.Fits settings entry.1) ∧
      (∀ summary, crew.run.result = .ok summary →
        summary.attempted =
            summary.cacheHits + summary.computed + summary.errors + summary.cancelled ∧
          summary.failures.length = summary.errors ∧
          summary.failures.Pairwise (fun a b => a.le b = true) ∧
          summary.attempted = ((Bucket.group locations).map Bucket.crossings).sum ∧
          (settings.force = true → summary.cacheHits = 0) ∧
          summary.cacheHits = crew.outcomes.countP PairOutcome.isCacheHit ∧
          summary.computed = crew.outcomes.countP PairOutcome.isComputed ∧
          summary.cancelled = crew.outcomes.countP PairOutcome.isCancelled ∧
          summary.failures.Perm (crew.outcomes.filterMap PairOutcome.failure?)) ∧
      (∀ failure, crew.run.result = .error failure ↔
        crew.outcomes.findSome? PairOutcome.fatal? = some failure) ∧
      (∀ before event rest refusal, events = before ++ event :: rest →
        (start.follow settings workers before).refusal? settings event = some refusal →
          refusal.isFatal = true → ∃ failure, crew.run.result = .error failure) := by
  intro start crew
  have accounted : Crew.Accounted settings (Job.ofLocations files locations) crew :=
    (Crew.accounted_of_jobs settings _ state cancelled).follow workers events
  obtain ⟨whole, active⟩ := accounted.finished finished
  refine ⟨whole, accounted.log, ?_, ?_, ?_⟩
  · intro summary returned
    obtain ⟨ending, rfl⟩ := Run.result_eq_ok_iff.1 returned
    obtain ⟨counts, attempted⟩ :=
      RunSummary.counts_of_fold (Job.ofLocations files locations).length crew.outcomes
    rw [← accounted.summary] at counts attempted
    have pairs : (Job.ofLocations files locations).length = crew.outcomes.length := by
      rw [← whole.length_eq, List.length_map, Crew.outcomes, List.length_map]
    obtain ⟨total, errors, sorted, cancelled, failures⟩ :=
      counts.listed (attempted.trans pairs) (accounted.fatal_eq.symm.trans ending)
    exact ⟨total, errors, sorted, attempted.trans (Job.of_locations_crossings files locations),
      fun forced => counts.cacheHits.trans (accounted.no_cache_hits forced), counts.cacheHits,
      counts.computed, cancelled, failures⟩
  · intro failure
    rw [Run.result_eq_error_iff, accounted.fatal_eq]
  · rintro before event rest refusal rfl refused isFatal
    have there := Crew.doomed_of_refusal workers refused isFatal
    have doomed : Crew.Doomed crew := by
      have same : crew = _ := Crew.follow_append start before event rest
      rw [same]
      exact there.follow workers rest
    obtain ⟨failure, ending⟩ := doomed.fatal accounted active
    exact ⟨failure, Run.result_eq_error_iff.2 ending⟩

def Store.forgetful : Store Unit where
  version := "v1"
  get _ _ := .ok none
  put _ _ held := .ok held

/-- Two pairs under way at once: the first one is late, and the run is cancelled before the second
one claims its record. -/
def lateAndCancelled : List CrewEvent :=
  [.start, .start, .advance 0, .advance 1, .advance 1, .advance 1, .deadline 0, .cancel, .linger 0,
    .advance 1, .advance 0, .collect 0, .collect 0]

def lostCrew : Crew Unit :=
  (Crew.ofJobs (Job.ofLocations (documentTree []) lostPair) ⟨plainCalculator, ()⟩ false).follow
    ⟨Store.forgetful, minute, false⟩ 2 lateAndCancelled

theorem lost_crew_counts_both_pairs : lostCrew.finished = true ∧ ∃ summary,
    lostCrew.run.result = .ok summary ∧ summary.attempted = 2 ∧ summary.computed = 0 ∧
      summary.errors = 1 ∧ summary.cancelled = 1 := by
  have finished : lostCrew.finished = true := by
    rw [lostCrew, jobs_of_lost_pair]
    rfl
  refine ⟨finished, ?_⟩
  obtain ⟨-, -, counted, ending, -⟩ := every_pair_counts_once ⟨Store.forgetful, minute, false⟩ 2
    (documentTree []) lostPair ⟨plainCalculator, ()⟩ false lateAndCancelled finished
  cases result : lostCrew.run.result with
  | error failure =>
      have ended := (ending failure).1 result
      rw [jobs_of_lost_pair] at ended
      cases ended
  | ok summary =>
      obtain ⟨-, errors, -, attempted, -, -, computed, cancelled, failures⟩ :=
        counted summary result
      rw [jobs_of_lost_pair] at computed cancelled failures
      rw [group_lost_pair] at attempted
      exact ⟨summary, rfl, attempted, computed, errors.symm.trans failures.length_eq, cancelled⟩

end Resemblance
