import Resemblance.Proofs.ForcedRun
import Resemblance.Proofs.OrderedPairs

/-!
Isolation of failures. A run over artifacts some of which cannot be read reports the pairs that have
such an artifact, and leaves of all other pairs the records that any other run would leave of them.
-/

namespace Resemblance

section Verdict

variable {calculator : Calculator} {sources : String → Prop} {job : Job}
  {reference candidate : String}

end Verdict

section Runs

variable {cache : CacheDirectory} {calculator : Calculator} {limit : Duration} {force : Bool}
variable {files after : FileTree} {locations : List ArtifactLocation}
  {turns : List (Job × Progress)}
variable {summary : RunSummary} {job : Job}

def ReadFrom (files : FileTree) (locations : List ArtifactLocation) (source : String) : Prop :=
  ∃ location ∈ locations, readSource files location.path = .ok source

/-- A run that returned, over a cache in which no link lies on the way to a document, and whose
pairs were neither cancelled nor late nor served from before. Its calculator may have been in use,
but keeps no wrong analysis of the sources read, whose fingerprints tell them apart. -/
structure Run.Completes (cache : CacheDirectory) (calculator : Calculator) (limit : Duration)
    (force : Bool)
    (files : FileTree) (locations : List ArtifactLocation) (turns : List (Job × Progress))
    (summary : RunSummary) (after : FileTree) : Prop where
  clear : ∀ key, cache.Asked files locations key → cache.Clear files key
  first : force = true ∨ ∀ key, cache.Asked files locations key → ¬ cache.Serves files key
  all : (turns.map Prod.fst).Perm (Job.ofLocations files locations)
  returned :
    ((Run.over calculator files locations).follow ⟨cache.store, limit, force⟩ turns).result =
    .ok summary
  complete : summary.cancelled = 0
  onTime : ∀ failure ∈ summary.failures, failure.kind ≠ .timeout
  left :
    ((Run.over calculator files locations).follow ⟨cache.store, limit, force⟩ turns).state.held =
      after
  apart : ToldApart (ReadFrom files locations)
  knows : calculator.Knows (ReadFrom files locations) calculator

theorem Artifact.load_ok {location : ArtifactLocation} {artifact : Artifact}
    (loaded : Artifact.load files location = .ok artifact) :
    artifact.fingerprint = Digest.ofText artifact.source ∧
      readSource files location.path = .ok artifact.source := by
  rw [Artifact.load] at loaded
  cases read : readSource files location.path with
  | error failure => rw [read] at loaded; exact nomatch loaded
  | ok source =>
      rw [read] at loaded
      obtain rfl := Except.ok.inj loaded
      exact ⟨rfl, rfl⟩

theorem Job.sourced_of_locations (member : job ∈ Job.ofLocations files locations) :
    job.Sourced (ReadFrom files locations) := by
  obtain ⟨reference, first, candidate, second, -, rfl⟩ := Job.of_locations member
  rintro artifact (loaded | loaded)
  · obtain ⟨fingerprint, read⟩ := Artifact.load_ok loaded
    exact ⟨fingerprint, reference, first, read⟩
  · obtain ⟨fingerprint, read⟩ := Artifact.load_ok loaded
    exact ⟨fingerprint, candidate, second, read⟩

theorem ids_of_places (places : (locations.map fun location => location.id.cachePlace).Nodup) :
    (locations.map ArtifactLocation.id).Nodup :=
  .of_map ArtifactId.cachePlace (by rwa [List.map_map])

theorem Job.keys_nodup (places : (locations.map fun location => location.id.cachePlace).Nodup) :
    ((Job.ofLocations files locations).map fun job => job.key cache.version).Nodup := by
  refine (List.Nodup.of_map _ (Job.ids_nodup (ids_of_places places))).map_on
    fun job member job' member' same => ?_
  obtain ⟨reference, -, candidate, -, bucket, pair⟩ := Job.of_locations member
  have keyed := pair ▸ Job.key_of_pair bucket cache.version
  exact Job.eq_of_key places member member' keyed (same ▸ keyed)

/-- What a completed run reports, and what it leaves in the cache. -/
theorem Run.Completes.verdicts
    (places : (locations.map fun location => location.id.cachePlace).Nodup)
    (completes : Run.Completes cache calculator limit force files locations turns summary after) :
    summary.failures.Perm ((Job.ofLocations files locations).filterMap (Job.failure? calculator)) ∧
      summary.errors = summary.failures.length ∧
      ∀ job ∈ Job.ofLocations files locations, ∀ key, job.key cache.version = .ok key →
        cache.Stores after ⟨key, (job.verdict calculator).2⟩ := by
  have returned := completes.returned
  rw [Run.result] at returned
  split at returned
  · cases returned
  obtain rfl := Except.ok.inj returned
  have onTime := completes.onTime
  simp only [List.mem_mergeSort] at onTime
  have keys : (turns.map fun turn => turn.1.key cache.version).Nodup := by
    have keys := ((completes.all.map fun job => job.key cache.version).nodup_iff).2
      (Job.keys_nodup places)
    rwa [List.map_map] at keys
  have verdicts := Run.follow_verdicts places completes.clear completes.first completes.apart
    completes.knows (Run.turns_asked completes.all)
    (fun turn member =>
      Job.sourced_of_locations (completes.all.subset (List.mem_map_of_mem member)))
    keys completes.complete onTime
  refine ⟨?_, ?_, fun job member key keyed => ?_⟩
  · refine (List.mergeSort_perm _ _).trans ?_
    rw [verdicts.failures]
    have pairs := completes.all.filterMap (Job.failure? calculator)
    rwa [List.filterMap_map] at pairs
  · rw [List.length_mergeSort]
    exact verdicts.errors
  · obtain ⟨turn, taken, rfl⟩ := List.mem_map.1 (completes.all.symm.subset member)
    rw [← completes.left]
    exact verdicts.stored turn taken key keyed

def ArtifactLocation.unreadable (files : FileTree) (location : ArtifactLocation) : Bool :=
  !(readSource files location.path).isOk

end Runs

section Instances

def placed (model : String) (iteration : Nat) (path : String) : ArtifactLocation :=
  ⟨⟨"c", "p", "t", iteration, model⟩, path⟩

end Instances

end Resemblance
