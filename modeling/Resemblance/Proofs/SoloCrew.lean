import Resemblance.Engine
import Resemblance.Run.Crew

/-!
Pairs taken one after the other. A crew can always take its pairs that way, with a deadline wherever
a comparison takes too long; then it comes to the same run as the engine, so that what is proved of
all crews holds of every run of the engine.
-/

namespace Resemblance

variable {σ : Type} {settings : RunSettings σ} {cancelled : Bool} {job : Job} {key : CacheKey}
variable {stage : Stage} {state state' : RunState σ} {outcome : PairOutcome}

/-- A pair that nothing else comes between goes from a stage to its end. -/
inductive Stage.Comes (settings : RunSettings σ) (cancelled : Bool) (job : Job) :
    Stage → RunState σ → PairOutcome × RunState σ → Prop
  | ended (outcome : PairOutcome) (state : RunState σ) :
      Comes settings cancelled job (.ended outcome) state (outcome, state)
  | step (stage : Stage) (state : RunState σ) {last : PairOutcome × RunState σ}
      (rest : Comes settings cancelled job (stage.advance settings cancelled job state).1
        (stage.advance settings cancelled job state).2 last) :
      Comes settings cancelled job stage state last
  | late (key : CacheKey) (state : RunState σ) {last : PairOutcome × RunState σ}
      (rest : Comes settings cancelled job
        (.failing key .timeout (RunState.timeoutOf settings.limit key))
        (Stage.compare job key state).2 last) :
      Comes settings cancelled job (.missed key) state last

namespace Stage

theorem comes_from_failing (key : CacheKey) (kind : PairFailureKind) (failure : Failure)
    (state : RunState σ) : Comes settings cancelled job (.failing key kind failure) state
      (state.settleFailure settings key kind failure) :=
  .step _ _ (.ended _ _)

theorem comes_from_refusal (key : CacheKey) (refusal : Failure) (state : RunState σ) :
    Comes settings cancelled job (ofRefusal key refusal) state
      (state.settleRefusal settings key refusal) := by
  unfold ofRefusal RunState.settleRefusal
  split
  next => exact .ended _ _
  next => exact comes_from_failing key .internal refusal state

theorem comes_from_compared (key : CacheKey) (record : Record) (outcome : PairOutcome)
    (state : RunState σ) : Comes settings false job (.compared key record outcome) state
      (state.settle settings .whole key record outcome) := by
  apply Comes.step
  apply Comes.step
  unfold RunState.settle advance
  dsimp only
  rw [if_neg Bool.false_ne_true, if_pos rfl]
  dsimp only
  cases settings.store.put key record state.held with
  | ok held => exact .ended _ _
  | error refusal => exact comes_from_refusal key refusal state

theorem comes_from_unread (key : CacheKey) (failure : Failure) (state : RunState σ)
    (unread : compare job key state =
      (.compared key (.ofFailure state.calculator.now failure)
        (.failed ⟨key.reference, key.candidate, .input, .ofFailure state.calculator.now failure⟩),
        state)) :
    Comes settings false job (.missed key) state
      (if settings.limit.millis < RunState.leastTime.millis then
        state.settleFailure settings key .timeout (RunState.timeoutOf settings.limit key)
      else
        state.settle settings .whole key (.ofFailure state.calculator.now failure)
          (.failed ⟨key.reference, key.candidate, .input,
            .ofFailure state.calculator.now failure⟩)) := by
  split
  next =>
    apply Comes.late
    rw [unread]
    exact comes_from_failing key .timeout _ state
  next =>
    apply Comes.step
    rw [advance, unread]
    exact comes_from_compared key _ _ state

theorem comes_from_missed (key : CacheKey) (state : RunState σ) :
    Comes settings false job (.missed key) state (state.compute settings .whole key job) := by
  obtain ⟨referenceId, candidateId, reference, candidate⟩ := job
  cases reference with
  | error failure => exact comes_from_unread key failure state rfl
  | ok reference =>
      cases candidate with
      | error failure => exact comes_from_unread key failure state rfl
      | ok candidate =>
          unfold RunState.compute
          dsimp only
          generalize answered : state.calculator.compareWith reference.source reference.fingerprint
            candidate.source candidate.fingerprint = answer
          obtain ⟨⟨result, time⟩, calculator⟩ := answer
          dsimp only
          split
          next =>
            apply Comes.late
            simp only [compare, answered]
            exact comes_from_failing key .timeout _ { state with calculator }
          next =>
            apply Comes.step
            simp only [advance, compare, answered]
            cases result with
            | ok record => exact comes_from_compared key record .computed { state with calculator }
            | error detail => exact comes_from_failing key .internal _ { state with calculator }

theorem comes_from_keyed (key : CacheKey) (state : RunState σ) :
    Comes settings false job (.keyed key) state (state.serve settings .whole key job) := by
  apply Comes.step
  unfold RunState.serve advance
  dsimp only
  split
  next => exact comes_from_missed key state
  next =>
    cases settings.store.get key state.held with
    | error refusal => exact comes_from_refusal key refusal state
    | ok found =>
        cases found with
        | none => exact comes_from_missed key state
        | some record => exact .ended _ _

/-- A pair on its own comes to what the run makes of it. -/
theorem comes_from_started (settings : RunSettings σ) (cancelled : Bool) (job : Job)
    (state : RunState σ) : Comes settings cancelled job .started state
      (state.process settings (if cancelled then .unstarted else .whole) job) := by
  apply Comes.step
  unfold RunState.process advance
  dsimp only
  cases cancelled with
  | true => exact .ended _ _
  | false =>
      rw [if_neg Bool.false_ne_true, if_neg Bool.false_ne_true, if_neg nofun]
      cases job.key settings.store.version with
      | ok key => exact comes_from_keyed key state
      | error failure => exact .ended _ _

end Stage

namespace Crew

variable {workers : Nat} {crew : Crew σ}

/-- A crew that is about to take one pair alone. -/
def alone (crew : Crew σ) (job : Job) (stage : Stage) (state : RunState σ) : Crew σ :=
  { crew with active := [(job, stage)], late := [], run := { crew.run with state } }

/-- The crew after it has taken one pair alone. -/
def settled (crew : Crew σ) (job : Job) (last : PairOutcome × RunState σ) : Crew σ :=
  { crew with
    active := []
    late := []
    log := crew.log ++ [(job, last.1)]
    cancelled := crew.cancelled || last.1.isFatal
    run := { crew.run with state := last.2 }.note last.1 }

theorem follow_cons (event : CrewEvent) (events : List CrewEvent) :
    crew.follow settings workers (event :: events) =
      (crew.step settings workers event).follow settings workers events := rfl

theorem exists_events_of_comes (workers : Nat) (crew : Crew σ) {last : PairOutcome × RunState σ}
    (comes : Stage.Comes settings crew.cancelled job stage state last) :
    ∃ events, (crew.alone job stage state).follow settings workers events =
      crew.settled job last := by
  induction comes with
  | ended outcome state => exact ⟨[.collect 0], rfl⟩
  | step stage state rest ih =>
      obtain ⟨events, same⟩ := ih
      exact ⟨.advance 0 :: events, same⟩
  | late key state rest ih =>
      obtain ⟨events, same⟩ := ih
      exact ⟨.deadline 0 :: .linger 0 :: events, same⟩

theorem fatal_after_isSome (fatal : Option Failure) (outcome : PairOutcome) :
    (Run.fatalAfter fatal outcome).isSome = (fatal.isSome || outcome.isFatal) := by
  cases fatal <;> cases outcome <;> rfl

theorem start_alone (settings : RunSettings σ) (workers : Nat) {job : Job} {rest : List Job}
    (waiting : crew.waiting = job :: rest) (active : crew.active = []) (late : crew.late = []) :
    crew.step settings workers .start =
      { crew with waiting := rest }.alone job .started crew.run.state := by
  have free : ([] : List (Job × Stage)).length < max workers 1 :=
    Nat.lt_of_lt_of_le Nat.zero_lt_one (Nat.le_max_right workers 1)
  unfold step alone
  dsimp only
  rw [waiting]
  dsimp only
  rw [active, if_pos free, late]
  rfl

/-- A crew of however many workers that takes its pairs one after the other comes to the same
run. -/
theorem exists_events_sequential (crew : Crew σ) (settings : RunSettings σ) (workers : Nat)
    (cancelled : Bool) (active : crew.active = []) (late : crew.late = [])
    (stopped : crew.cancelled = (cancelled || crew.run.fatal.isSome)) :
    ∃ events, (crew.follow settings workers events).finished = true ∧
      (crew.follow settings workers events).run =
        crew.run.sequential settings cancelled crew.waiting := by
  induction pending : crew.waiting generalizing crew with
  | nil => exact ⟨[], by simp [follow, finished, pending, active], rfl⟩
  | cons job rest ih =>
      have begun := start_alone settings workers pending active late
      obtain ⟨events, done⟩ := exists_events_of_comes workers { crew with waiting := rest }
        (Stage.comes_from_started settings crew.cancelled job crew.run.state)
      generalize processed : crew.run.state.process settings
        (if crew.cancelled then .unstarted else .whole) job = last at done
      have stays : ({ crew with waiting := rest }.settled job last).cancelled =
          (cancelled || ({ crew with waiting := rest }.settled job last).run.fatal.isSome) := by
        change (crew.cancelled || last.1.isFatal) =
          (cancelled || (Run.fatalAfter crew.run.fatal last.1).isSome)
        rw [fatal_after_isSome, stopped, Bool.or_assoc]
      obtain ⟨later, finished, ran⟩ := ih _ rfl rfl stays rfl
      refine ⟨.start :: (events ++ later), ?_⟩
      have whole : crew.follow settings workers (.start :: (events ++ later)) =
          ({ crew with waiting := rest }.settled job last).follow settings workers later := by
        rw [follow_cons, begun, ← done]
        exact List.foldl_append
      rw [whole]
      refine ⟨finished, ran.trans ?_⟩
      have own : ({ crew with waiting := rest }.settled job last).run =
          crew.run.step settings job
            (if cancelled || crew.run.fatal.isSome then .unstarted else .whole) := by
        rw [← stopped, Run.step, processed]
        rfl
      rw [own]
      rfl

end Crew

/-- A run of the engine is that of a crew of however many workers. -/
theorem engine_run_is_followed (engine : Engine) (store : Store FileTree) (files : FileTree)
    (locations : List ArtifactLocation) (force : Bool) (workers : Nat) :
    let settings := RunSettings.mk store engine.config.pairTime force
    let start := Crew.ofJobs (Job.ofLocations files locations)
      ⟨engine.calculator, files⟩ engine.cancelled
    ∃ events, (start.follow settings workers events).finished = true ∧
      engine.runArtifacts store files locations force =
        ((start.follow settings workers events).run.result,
          { engine with calculator :=
            (start.follow settings workers events).run.state.calculator.clear },
          (start.follow settings workers events).run.state.held) := by
  intro settings start
  obtain ⟨events, finished, ran⟩ := start.exists_events_sequential settings workers
    engine.cancelled rfl rfl (Bool.or_false _).symm
  refine ⟨events, finished, ?_⟩
  rw [ran]
  rfl

end Resemblance
