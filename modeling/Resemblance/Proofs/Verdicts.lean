import Resemblance.Proofs.Analyses
import Resemblance.Proofs.OrderedPairs
import Resemblance.Proofs.SecondRun

/-!
Verdicts. What a run makes of a pair depends on the two artifacts of the pair alone, as long as the
pair is neither served nor cancelled nor late: its outcome and its record are the same whatever was
compared before it. A run of such pairs reports their failures and leaves their records in the
cache.
-/

namespace Resemblance

namespace Job

/-- What becomes of a pair by itself: the kind of its failure, if it fails, and its record. -/
def verdict (calculator : Calculator) (job : Job) : Option PairFailureKind × Record :=
  match job.reference, job.candidate with
  | .ok reference, .ok candidate =>
      match (calculator.clear.compare reference.source candidate.source).1.result with
      | .ok record => (none, record)
      | .error detail =>
          (some .internal, .ofFailure calculator.now
            (.internal s!"comparison worker failed: {detail}"))
  | .error failure, _ | _, .error failure => (some .input, .ofFailure calculator.now failure)

def failure? (calculator : Calculator) (job : Job) : Option PairFailure :=
  (job.verdict calculator).1.map fun kind =>
    ⟨job.referenceId, job.candidateId, kind, (job.verdict calculator).2⟩

def outcome (calculator : Calculator) (job : Job) : PairOutcome :=
  (job.failure? calculator).elim .computed .failed

theorem outcome_of_failed {calculator : Calculator} {job : Job} {kind : PairFailureKind}
    {record : Record}
    (failed : job.verdict calculator = (some kind, record)) :
    job.outcome calculator = .failed ⟨job.referenceId, job.candidateId, kind, record⟩ := by
  rw [outcome, failure?, failed]
  rfl

theorem outcome_of_computed {calculator : Calculator} {job : Job} {record : Record}
    (computed : job.verdict calculator = (none, record)) : job.outcome calculator = .computed := by
  rw [outcome, failure?, computed]
  rfl

/-- The artifacts of the pair that could be read are of some sources, under their fingerprints. -/
def Sourced (sources : String → Prop) (job : Job) : Prop :=
  ∀ artifact, job.reference = .ok artifact ∨ job.candidate = .ok artifact →
    artifact.fingerprint = Digest.ofText artifact.source ∧ sources artifact.source

theorem key_ids {job : Job} {version : String} {key : CacheKey}
    (keyed : job.key version = .ok key) :
    key.reference = job.referenceId ∧ key.candidate = job.candidateId := by
  rw [Job.key, CacheKey.ofParts] at keyed
  split at keyed
  · rw [← Except.ok.inj keyed]
    exact ⟨rfl, rfl⟩
  · cases keyed

end Job

def PairFailure.ids (failure : PairFailure) : ArtifactId × ArtifactId :=
  (failure.reference, failure.candidate)

/-- A pair that was neither cancelled nor stopped by its deadline nor by the end of the run. -/
structure PairOutcome.Undisturbed (outcome : PairOutcome) : Prop where
  started : outcome ≠ .cancelled
  fine : ∀ failure, outcome ≠ .fatal failure
  onTime : ∀ failure, outcome = .failed failure → failure.kind ≠ .timeout

section Turns

variable {cache : CacheDirectory} {start : Calculator} {sources : String → Prop} {limit : Duration}
variable {force : Bool} {progress : Progress} {key : CacheKey} {job : Job}
  {state : RunState FileTree}
variable {record : Record} {files : FileTree}

theorem CacheDirectory.get_refused {refusal : Failure}
    (refused : cache.get key files = .error refusal) :
    refusal.isFatal = true := by
  rw [CacheDirectory.get, readEntry] at refused
  split at refused
  · cases refused
  · cases refused
  · obtain rfl := Except.error.inj refused
    rfl

namespace RunState

theorem settle_refusal_disturbed {settings : RunSettings FileTree} {refusal : Failure}
    (severe : refusal.isFatal = true) :
    ¬ (settleRefusal settings key refusal state).1.Undisturbed := by
  rw [settleRefusal, if_pos severe]
  exact fun undisturbed => undisturbed.fine _ rfl

theorem settle_failure_undisturbed {kind : PairFailureKind} {failure : Failure}
    (undisturbed :
      (settleFailure ⟨cache.store, limit, force⟩ key kind failure state).1.Undisturbed) :
    kind ≠ .timeout ∧ ∃ held, cache.put key (.ofFailure state.calculator.now failure) state.held =
      .ok held ∧
      settleFailure ⟨cache.store, limit, force⟩ key kind failure state =
        (.failed ⟨key.reference, key.candidate, kind, .ofFailure state.calculator.now failure⟩,
          { state with held }) := by
  simp only [settleFailure, CacheDirectory.store_put] at undisturbed ⊢
  cases put : cache.put key (.ofFailure state.calculator.now failure) state.held with
  | ok held =>
      rw [put] at undisturbed
      exact ⟨undisturbed.onTime _ rfl, held, rfl, rfl⟩
  | error refusal =>
      simp only [put, if_pos (CacheDirectory.put_refused put)] at undisturbed
      exact absurd rfl (undisturbed.fine refusal)

theorem settle_undisturbed {outcome : PairOutcome}
    (undisturbed :
      (settle ⟨cache.store, limit, force⟩ progress key record outcome state).1.Undisturbed) :
    ∃ held, cache.put key record state.held = .ok held ∧
      settle ⟨cache.store, limit, force⟩ progress key record outcome state =
        (outcome, { state with held }) := by
  simp only [settle, CacheDirectory.store_put] at undisturbed ⊢
  by_cases whole : progress = .whole
  · rw [if_pos whole] at undisturbed ⊢
    cases put : cache.put key record state.held with
    | ok held => exact ⟨held, rfl, rfl⟩
    | error refusal =>
        rw [put] at undisturbed
        exact absurd undisturbed (settle_refusal_disturbed (CacheDirectory.put_refused put))
  · rw [if_neg whole] at undisturbed
    exact absurd rfl undisturbed.started

/-- A pair has come to its own verdict, and its record was put into the cache. -/
structure Judged (cache : CacheDirectory) (start : Calculator) (sources : String → Prop)
    (key : CacheKey)
    (job : Job) (held : FileTree) (result : PairOutcome × RunState FileTree) : Prop where
  outcome : result.1 = job.outcome start
  put : cache.put key (job.verdict start).2 held = .ok result.2.held
  knows : Calculator.Knows start sources result.2.calculator

theorem settle_judged {outcome : PairOutcome}
    (knows : Calculator.Knows start sources state.calculator)
    (verdict : (job.verdict start).2 = record) (outcome_eq : outcome = job.outcome start)
    (undisturbed :
      (settle ⟨cache.store, limit, force⟩ progress key record outcome state).1.Undisturbed) :
    Judged cache start sources key job state.held
      (settle ⟨cache.store, limit, force⟩ progress key record outcome state) := by
  obtain ⟨held, put, same⟩ := settle_undisturbed undisturbed
  rw [same]
  exact ⟨outcome_eq, verdict ▸ put, knows⟩

theorem settle_failure_judged {kind : PairFailureKind} {failure : Failure}
    (knows : Calculator.Knows start sources state.calculator)
    (ids : key.reference = job.referenceId ∧ key.candidate = job.candidateId)
    (verdict : job.verdict start = (some kind, .ofFailure state.calculator.now failure))
    (undisturbed :
      (settleFailure ⟨cache.store, limit, force⟩ key kind failure state).1.Undisturbed) :
    Judged cache start sources key job state.held
      (settleFailure ⟨cache.store, limit, force⟩ key kind failure state) := by
  obtain ⟨-, held, put, same⟩ := settle_failure_undisturbed undisturbed
  rw [same]
  refine ⟨?_, (congrArg Prod.snd verdict).symm ▸ put, knows⟩
  rw [Job.outcome_of_failed verdict, ids.1, ids.2]

theorem late_disturbed {failure : Failure} :
    ¬ (settleFailure ⟨cache.store, limit, force⟩ key .timeout failure state).1.Undisturbed :=
  fun undisturbed => (settle_failure_undisturbed undisturbed).1 rfl

/-- What a comparison can come to: it is late, or it settles with the verdict of the pair. -/
inductive Concluded (settings : RunSettings FileTree) (start : Calculator) (sources : String → Prop)
    (progress : Progress) (key : CacheKey) (job : Job) (held : FileTree) :
    PairOutcome × RunState FileTree → Prop
  | late (after : Calculator) (late : ¬ start.InTime settings.limit) :
      Concluded settings start sources progress key job held
        (settleFailure settings key .timeout (timeoutOf settings.limit key) ⟨after, held⟩)
  | settled {after : Calculator} (knows : Calculator.Knows start sources after) :
      Concluded settings start sources progress key job held
        (settle settings progress key (job.verdict start).2 (job.outcome start) ⟨after, held⟩)
  | failed {after : Calculator} {kind : PairFailureKind} {failure : Failure}
      (knows : Calculator.Knows start sources after)
      (verdict : job.verdict start = (some kind, .ofFailure after.now failure)) :
      Concluded settings start sources progress key job held
        (settleFailure settings key kind failure ⟨after, held⟩)

theorem Concluded.computed {settings : RunSettings FileTree} {after : Calculator} {held : FileTree}
    (knows : Calculator.Knows start sources after) (verdict : job.verdict start = (none, record)) :
    Concluded settings start sources progress key job held
      (settle settings progress key record .computed ⟨after, held⟩) := by
  obtain rfl : (job.verdict start).2 = record := congrArg Prod.snd verdict
  rw [← Job.outcome_of_computed verdict]
  exact .settled knows

theorem compute_unread_concluded {settings : RunSettings FileTree} {failure : Failure}
    (knows : Calculator.Knows start sources state.calculator)
    (ids : key.reference = job.referenceId ∧ key.candidate = job.candidateId)
    (verdict : job.verdict start = (some .input, .ofFailure start.now failure))
    (same : compute settings progress key job state =
      if settings.limit.millis < leastTime.millis then
        settleFailure settings key .timeout (timeoutOf settings.limit key) state
      else
        settle settings progress key (.ofFailure state.calculator.now failure)
          (.failed ⟨key.reference, key.candidate, .input, .ofFailure state.calculator.now failure⟩)
          state) :
    Concluded settings start sources progress key job state.held
      (compute settings progress key job state) := by
  rw [← knows.now] at verdict
  have outcome := Job.outcome_of_failed verdict
  rw [← ids.1, ← ids.2] at outcome
  have record : (job.verdict start).2 = .ofFailure state.calculator.now failure :=
    congrArg Prod.snd verdict
  rw [same, ← outcome, ← record]
  split
  · rename_i late
    exact .late state.calculator fun inTime => absurd inTime.least (Nat.not_le.2 late)
  · exact .settled knows

/-- A comparison that is not late settles with the verdict of the pair, whatever was compared before
it. -/
theorem compute_concluded {settings : RunSettings FileTree} {version : String}
    (keyed : job.key version = .ok key)
    (knows : Calculator.Knows start sources state.calculator) (apart : ToldApart sources)
    (sourced : job.Sourced sources) :
    Concluded settings start sources progress key job state.held
      (compute settings progress key job state) := by
  have ids := Job.key_ids keyed
  obtain ⟨referenceId, candidateId, reference, candidate⟩ := job
  cases reference with
  | error failure => exact compute_unread_concluded knows ids rfl rfl
  | ok reference =>
      cases candidate with
      | error failure => exact compute_unread_concluded knows ids rfl rfl
      | ok candidate =>
          obtain ⟨fingerprint, own⟩ := sourced reference (.inl rfl)
          obtain ⟨fingerprint', own'⟩ := sourced candidate (.inr rfl)
          have same :
              state.calculator.compareWith reference.source reference.fingerprint candidate.source
                  candidate.fingerprint =
                state.calculator.compare reference.source candidate.source := by
            rw [fingerprint, fingerprint', Calculator.compare]
          have judged := knows.compare_eq (Calculator.knows_clear start sources) apart own own'
          have keeps := knows.compare_keeps apart own own'
          have spent := knows.compare_in_time settings.limit apart own own'
          generalize state.calculator.compare reference.source candidate.source = answer
            at same judged keeps spent
          obtain ⟨⟨result, time⟩, after⟩ := answer
          simp only [compute, same]
          split
          · rename_i late
            exact .late after fun inTime => absurd (spent inTime) (Nat.not_le.2 late)
          · cases result with
            | ok record =>
                have verdict : Job.verdict start
                    ⟨referenceId, candidateId, .ok reference, .ok candidate⟩ =
                    (none, record) := by
                  simp only [Job.verdict, ← judged]
                exact .computed keeps verdict
            | error detail =>
                have now : after.now = start.now := keeps.now
                have verdict : Job.verdict start
                    ⟨referenceId, candidateId, .ok reference, .ok candidate⟩ =
                    (some .internal, .ofFailure after.now
                      (.internal s!"comparison worker failed: {detail}")) := by
                  simp only [Job.verdict, ← judged, now]
                exact .failed keeps verdict

theorem Concluded.judged {result : PairOutcome × RunState FileTree} {held : FileTree}
    (concluded : Concluded ⟨cache.store, limit, force⟩ start sources progress key job held result)
    (ids : key.reference = job.referenceId ∧ key.candidate = job.candidateId)
    (undisturbed : result.1.Undisturbed) : Judged cache start sources key job held result := by
  cases concluded with
  | late after _ => exact absurd undisturbed late_disturbed
  | settled knows => exact settle_judged knows rfl rfl undisturbed
  | failed knows verdict => exact settle_failure_judged knows ids verdict undisturbed

theorem process_judged (keyed : job.key cache.version = .ok key)
    (first : force = true ∨ ¬ cache.Serves state.held key)
    (knows : Calculator.Knows start sources state.calculator) (apart : ToldApart sources)
    (sourced : job.Sourced sources)
    (undisturbed : (process ⟨cache.store, limit, force⟩ progress job state).1.Undisturbed) :
    Judged cache start sources key job state.held
      (process ⟨cache.store, limit, force⟩ progress job state) := by
  simp only [process, CacheDirectory.store_version, keyed, serve, CacheDirectory.store_get]
    at undisturbed ⊢
  by_cases unstarted : progress = .unstarted
  · rw [if_pos unstarted] at undisturbed
    exact absurd rfl undisturbed.started
  rw [if_neg unstarted] at undisturbed ⊢
  cases force with
  | true =>
      exact (compute_concluded keyed knows apart sourced).judged (Job.key_ids keyed) undisturbed
  | false =>
      have first := first.resolve_left Bool.false_ne_true
      cases found : cache.get key state.held with
      | error refusal =>
          simp only [found] at undisturbed
          exact absurd undisturbed (settle_refusal_disturbed (CacheDirectory.get_refused found))
      | ok served =>
          cases served with
          | some record => exact absurd ⟨record, found⟩ first
          | none =>
              simp only [found] at undisturbed ⊢
              exact (compute_concluded keyed knows apart sourced).judged
                (Job.key_ids keyed) undisturbed

end RunState

end Turns

section Verdicts

variable {cache : CacheDirectory} {start : Calculator} {sources : String → Prop} {files : FileTree}
variable {locations : List ArtifactLocation} {turns : List (Job × Progress)} {turn : Job × Progress}
variable {run : Run FileTree} {summary : RunSummary} {limit : Duration} {force : Bool}

/-- The document of an entry is in its place in the cache. -/
def CacheDirectory.Stores (cache : CacheDirectory) (files : FileTree) (entry : CacheEntry) : Prop :=
  files.readText (cache.entryPath entry.key) = .ok entry.write

/-- What holds after some turns that all came to their ends: the failures of their pairs are
reported, the records of their pairs are held, and no other pair is served that was not served
before. -/
structure Run.Verdicts (cache : CacheDirectory) (start : Calculator) (sources : String → Prop)
    (files : FileTree) (locations : List ArtifactLocation) (turns : List (Job × Progress))
    (run : Run FileTree) : Prop where
  follows : cache.Follows files run.state.held
  knows : start.Knows sources run.state.calculator
  failures : run.summary.failures = turns.filterMap fun turn => turn.1.failure? start
  errors : run.summary.errors = run.summary.failures.length
  stored : ∀ turn ∈ turns, ∀ key, turn.1.key cache.version = .ok key →
    cache.Stores run.state.held ⟨key, (turn.1.verdict start).2⟩
  fresh : ∀ key, cache.Asked files locations key →
    (∀ turn ∈ turns, turn.1.key cache.version ≠ .ok key) →
    cache.Serves run.state.held key → cache.Serves files key

theorem RunSummary.add_undisturbed {outcome : PairOutcome}
    (complete : (summary.add outcome).cancelled = 0)
    (onTime : ∀ failure ∈ (summary.add outcome).failures, failure.kind ≠ .timeout) :
    summary.cancelled = 0 ∧ (∀ failure ∈ summary.failures, failure.kind ≠ .timeout) ∧
      outcome.Undisturbed := by
  obtain ⟨before, started, fine⟩ := add_cancelled complete
  cases outcome with
  | failed failure =>
      rw [add, List.forall_mem_append, List.forall_mem_singleton] at onTime
      refine ⟨before, onTime.1, started, fine, fun other same => ?_⟩
      obtain rfl := PairOutcome.failed.inj same
      exact onTime.2
  | _ => exact ⟨before, onTime, started, fine, fun _ same => nomatch same⟩

theorem RunSummary.add_outcome (start : Calculator) (summary : RunSummary) (job : Job) :
    (summary.add (job.outcome start)).failures = summary.failures ++ (job.failure? start).toList ∧
      (summary.add (job.outcome start)).errors =
        summary.errors + (job.failure? start).toList.length := by
  rw [Job.outcome]
  cases job.failure? start with
  | none => exact ⟨(List.append_nil _).symm, rfl⟩
  | some failure => exact ⟨rfl, rfl⟩

theorem Run.Verdicts.nothing (knows : start.Knows sources start) :
    Run.Verdicts cache start sources files locations [] (Run.over start files locations) :=
  ⟨.refl _ _, knows, rfl, rfl, fun _ => nofun, fun _ _ _ served => served⟩

theorem Run.Verdicts.after {key : CacheKey} {progress : Progress}
    {settings : RunSettings FileTree} {job : Job}
    (verdicts : run.Verdicts cache start sources files locations turns)
    (places : (locations.map fun location => location.id.cachePlace).Nodup)
    (clear : ∀ key, cache.Asked files locations key → cache.Clear files key)
    (asked : ∀ turn ∈ turns, ∃ key, turn.1.key cache.version = .ok key ∧
      cache.Asked files locations key)
    (keyed : job.key cache.version = .ok key) (own : cache.Asked files locations key)
    (new : ∀ turn ∈ turns, turn.1.key cache.version ≠ .ok key)
    (judged : RunState.Judged cache start sources key job run.state.held
      (run.state.process settings progress job)) :
    (run.step settings job progress).Verdicts cache start sources files locations
      (turns ++ [(job, progress)]) := by
  have clear (key : CacheKey) (own : cache.Asked files locations key) :
      cache.Clear run.state.held key :=
    (clear key own).follow verdicts.follows
  obtain ⟨between, root, puts⟩ := (clear key own).puts judged.put
  have summary : (run.step settings job progress).summary = run.summary.add (job.outcome start) :=
    congrArg run.summary.add judged.outcome
  obtain ⟨failures, errors⟩ := RunSummary.add_outcome start run.summary job
  constructor
  case follows => exact verdicts.follows.trans puts.follows
  case knows => exact judged.knows
  case failures =>
    rw [summary, failures, verdicts.failures, List.filterMap_append]
    cases found : job.failure? start <;> simp [found]
  case errors => rw [summary, failures, errors, verdicts.errors, List.length_append]
  case stored =>
    rw [List.forall_mem_append, List.forall_mem_singleton]
    constructor
    · intro earlier member key' keyed'
      obtain ⟨_, keyed'', own'⟩ := asked earlier member
      obtain rfl := Except.ok.inj (keyed'.symm.trans keyed'')
      refine (puts.read_other (clear key' own') fun same => ?_).2
        (verdicts.stored earlier member key' keyed')
      exact new earlier member (own.eq_of_names places own' same ▸ keyed')
    · intro key' keyed'
      obtain rfl := Except.ok.inj (keyed.symm.trans keyed')
      exact puts.read_own
  case fresh =>
    intro key' own' untaken ⟨record, served⟩
    rw [List.forall_mem_append, List.forall_mem_singleton] at untaken
    refine verdicts.fresh key' own' untaken.1
      ⟨record, (puts.get_other (clear key' own') fun same => ?_).1 served⟩
    exact untaken.2 (own.eq_of_names places own' same ▸ keyed)

/-- A run of distinct pairs that is neither cancelled nor late brings each of them to its
verdict. -/
theorem Run.follow_verdicts (places : (locations.map fun location => location.id.cachePlace).Nodup)
    (clear : ∀ key, cache.Asked files locations key → cache.Clear files key)
    (first : force = true ∨ ∀ key, cache.Asked files locations key → ¬ cache.Serves files key)
    (apart : ToldApart sources) (knows : start.Knows sources start)
    (asked : ∀ turn ∈ turns, ∃ key, turn.1.key cache.version = .ok key ∧
      cache.Asked files locations key)
    (sourced : ∀ turn ∈ turns, turn.1.Sourced sources)
    (distinct : (turns.map fun turn => turn.1.key cache.version).Nodup)
    (complete :
      ((Run.over start files locations).follow ⟨cache.store, limit, force⟩
        turns).summary.cancelled = 0)
    (onTime : ∀ failure ∈ ((Run.over start files locations).follow
      ⟨cache.store, limit, force⟩ turns).summary.failures, failure.kind ≠ .timeout) :
    ((Run.over start files locations).follow ⟨cache.store, limit, force⟩ turns).Verdicts
      cache start sources
      files locations turns := by
  induction turns using List.reverseRecOn with
  | nil => exact .nothing knows
  | append_singleton turns turn ih =>
      rw [Run.follow_concat] at complete onTime ⊢
      obtain ⟨complete, onTime, undisturbed⟩ := RunSummary.add_undisturbed complete onTime
      rw [List.forall_mem_append, List.forall_mem_singleton] at asked sourced
      rw [List.map_append, List.nodup_append] at distinct
      obtain ⟨distinct, -, new⟩ := distinct
      obtain ⟨asked, key, keyed, own⟩ := asked
      have new : ∀ turn ∈ turns, turn.1.key cache.version ≠ .ok key := fun earlier member same =>
        new _ (List.mem_map_of_mem member) _ (List.mem_singleton_self _) (same.trans keyed.symm)
      -- No turn before this one was of its key, so the cache serves it only if it did at the start.
      have verdicts := ih asked sourced.1 distinct complete onTime
      refine verdicts.after places clear asked keyed own new ?_
      exact RunState.process_judged keyed
        (first.imp_right fun first served => first key own (verdicts.fresh key own new served))
        verdicts.knows apart sourced.2 undisturbed

end Verdicts

end Resemblance
