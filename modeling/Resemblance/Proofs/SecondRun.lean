import Resemblance.Proofs.SettledRun

/-!
A run that returns without cancelled pairs leaves a record for each of its pairs, so the next run
over the same files serves all of them and changes nothing.
-/

namespace Resemblance

section SecondRun

variable {σ : Type} {settings : RunSettings σ} {job : Job} {key : CacheKey} {record : Record}

/-- No pair is stopped before the run itself has to end. -/
def Run.Uninterrupted (settings : RunSettings σ) : Run σ → List (Job × Progress) → Prop
  | _, [] => True
  | run, turn :: turns =>
      (run.fatal = none → turn.2 = .whole) ∧
        Uninterrupted settings (run.step settings turn.1 turn.2) turns

theorem Run.sequential_uninterrupted (settings : RunSettings σ) (run : Run σ) (jobs : List Job) :
    ∃ turns, turns.map Prod.fst = jobs ∧ run.Uninterrupted settings turns ∧
      run.sequential settings false jobs = run.follow settings turns := by
  induction jobs generalizing run with
  | nil => exact ⟨[], rfl, trivial, rfl⟩
  | cons job jobs ih =>
      let progress : Progress := if false || run.fatal.isSome then .unstarted else .whole
      obtain ⟨turns, rfl, uninterrupted, same⟩ := ih (run.step settings job progress)
      refine ⟨(job, progress) :: turns, rfl, ⟨fun going => ?_, uninterrupted⟩, same⟩
      simp [progress, going]

end SecondRun

section Repeated

variable {cache : CacheDirectory} {files after : FileTree} {locations : List ArtifactLocation}
variable {calculator calculator' : Calculator} {limit limit' : Duration} {force : Bool}
variable {turns turns' : List (Job × Progress)} {summary : RunSummary}

def Run.over (calculator : Calculator) (files : FileTree) (locations : List ArtifactLocation) :
    Run FileTree :=
  Run.start (Job.ofLocations files locations) ⟨calculator, files⟩

/-- A run over some artifacts asks the cache for a key. -/
def CacheDirectory.Asked (cache : CacheDirectory) (files : FileTree)
    (locations : List ArtifactLocation)
    (key : CacheKey) : Prop :=
  ∃ job ∈ Job.ofLocations files locations, job.key cache.version = .ok key

theorem CacheDirectory.Asked.eq_of_names {key other : CacheKey}
    (places : (locations.map fun location => location.id.cachePlace).Nodup)
    (asked : cache.Asked files locations key) (asked' : cache.Asked files locations other)
    (same : other.names = key.names) : other = key := by
  obtain ⟨job, member, keyed⟩ := asked
  obtain ⟨job', member', keyed'⟩ := asked'
  obtain ⟨reference, first, candidate, second, bucket, rfl⟩ := Job.of_locations member
  obtain ⟨reference', first', candidate', second', bucket', rfl⟩ := Job.of_locations member'
  rw [Job.key_of_pair bucket] at keyed
  rw [Job.key_of_pair bucket'] at keyed'
  obtain rfl := Except.ok.inj keyed
  obtain rfl := Except.ok.inj keyed'
  obtain ⟨rfl, rfl⟩ := CacheKey.of_pair_inj places first' first second' second bucket' bucket same
  rfl

theorem Job.eq_of_key {job job' : Job} {key : CacheKey}
    (places : (locations.map fun location => location.id.cachePlace).Nodup)
    (member : job ∈ Job.ofLocations files locations)
    (member' : job' ∈ Job.ofLocations files locations)
    (keyed : job.key cache.version = .ok key) (keyed' : job'.key cache.version = .ok key) :
    job = job' := by
  obtain ⟨reference, first, candidate, second, bucket, rfl⟩ := Job.of_locations member
  obtain ⟨reference', first', candidate', second', bucket', rfl⟩ := Job.of_locations member'
  rw [Job.key_of_pair bucket] at keyed
  rw [Job.key_of_pair bucket'] at keyed'
  obtain rfl := Except.ok.inj keyed
  have same := congrArg CacheKey.names (Except.ok.inj keyed')
  obtain ⟨rfl, rfl⟩ := CacheKey.of_pair_inj places first' first second' second bucket' bucket same
  rfl

/-- Every turn of a run over some artifacts is taken for a key that the run asks for. -/
theorem Run.turns_asked (all : (turns.map Prod.fst).Perm (Job.ofLocations files locations)) :
    ∀ turn ∈ turns, ∃ key, turn.1.key cache.version = .ok key ∧
    cache.Asked files locations key := by
  intro turn member
  have member := all.subset (List.mem_map_of_mem member)
  obtain ⟨reference, -, candidate, -, bucket, same⟩ := Job.of_locations member
  have key := same ▸ Job.key_of_pair bucket cache.version
  exact ⟨_, key, turn.1, member, key⟩

end Repeated

section Instances

def lostArtifact (iteration : Nat) (path : String) : ArtifactLocation :=
  ⟨⟨"c", "p", "t", iteration, "m"⟩, path⟩

def lostPair : List ArtifactLocation :=
  [lostArtifact 0 "absent_0.py", lostArtifact 1 "absent_1.py"]

def plainCalculator : Calculator := .ofConfig (.ofTrees []) ⟨1735689600, 0⟩ {} none

def minute : Duration := .ofSeconds 60

/-- An experiment without any file but documents of the cache. -/
def documentTree (documents : List (String × FileTree)) : FileTree :=
  ["similarity_analysis", "v1", "c", "p", "t", "m"].foldr
    (fun name tree => .directory [(name, tree)])
    (.directory documents)

def lostFailure (path : String) : Failure :=
  .unreadable path "No such file or directory (os error 2)"

def lostJob (iteration other : Nat) (path otherPath : String) : Job :=
  ⟨⟨"c", "p", "t", iteration, "m"⟩, ⟨"c", "p", "t", other, "m"⟩, .error (lostFailure path),
    .error (lostFailure otherPath)⟩

def lostJobs : List Job :=
  [lostJob 0 1 "absent_0.py" "absent_1.py", lostJob 1 0 "absent_1.py" "absent_0.py"]

def spoilt : List (String × FileTree) := [("iter_0__iter_1.json", .file "x".toUTF8)]

theorem group_lost_pair : Bucket.group lostPair = [⟨⟨"m", "c", "p", "t"⟩, lostPair⟩] := by
  have keys : distinct BucketKey.le (lostPair.map fun location => location.id.bucket) =
      [⟨"m", "c", "p", "t"⟩] := by
    have once : (lostPair.map fun location => location.id.bucket).eraseDups =
        [⟨"m", "c", "p", "t"⟩] := by decide +kernel
    rw [distinct, once, List.mergeSort_singleton]
  have all : (lostPair.filter fun location => location.id.bucket == ⟨"m", "c", "p", "t"⟩) =
      lostPair := by
    decide +kernel
  rw [Bucket.group, keys, List.map_singleton, all, List.mergeSort_of_pairwise (by decide +kernel)]

theorem jobs_of_lost_pair (documents : List (String × FileTree)) :
    Job.ofLocations (documentTree documents) lostPair = lostJobs := by
  rw [Job.ofLocations, group_lost_pair]
  rfl

end Instances

end Resemblance
