import Resemblance.Proofs.CacheDirectory
import Resemblance.Proofs.Journal

/-!
What a run leaves in the cache. A turn that comes to its end leaves a record under the key of its
pair and leaves the records of all other keys alone, as long as the documents of the keys are apart:
no two keys have documents of the same names, and no link inside the cache makes one document stand
for two.
-/

namespace Resemblance

section Jobs

variable {files files' : FileTree} {locations : List ArtifactLocation} {job : Job} {bucket : Bucket}

/-- Where the cache keeps what concerns an artifact: safe names, and the iteration. -/
def ArtifactId.cachePlace (id : ArtifactId) : List String × Nat :=
  ([safeName id.challenge, safeName id.prompt, safeName id.temperature, safeName id.model],
    id.iteration)

theorem ArtifactId.cache_place_eq {id id' : ArtifactId} (bucket : id.bucket = id'.bucket)
    (iteration : id.iteration = id'.iteration) : id.cachePlace = id'.cachePlace := by
  obtain ⟨model, challenge, prompt, temperature⟩ := ArtifactId.bucket_eq_iff.1 bucket
  simp only [cachePlace, model, challenge, prompt, temperature, iteration]

theorem Bucket.mem_of_group (grouped : bucket ∈ Bucket.group locations)
    {location : ArtifactLocation}
    (member : location ∈ bucket.members) :
    location ∈ locations ∧ location.id.bucket = bucket.key := by
  obtain ⟨key, -, rfl⟩ := List.mem_map.1 grouped
  have member := (List.mergeSort_perm _ _).mem_iff.1 member
  simpa using member

/-- The pair of two artifacts, each as it is loaded. -/
def Job.ofPair (files : FileTree) (reference candidate : ArtifactLocation) : Job :=
  ⟨reference.id, candidate.id, Artifact.load files reference, Artifact.load files candidate⟩

theorem Job.of_locations (member : job ∈ Job.ofLocations files locations) :
    ∃ reference ∈ locations, ∃ candidate ∈ locations,
      reference.id.bucket = candidate.id.bucket ∧ job = Job.ofPair files reference candidate := by
  obtain ⟨bucket, grouped, member⟩ := List.mem_flatMap.1 member
  obtain ⟨pair, -, made⟩ := List.mem_filterMap.1 member
  split at made
  · rename_i referenceId reference candidateId candidate first second
    rw [List.getElem?_map, Option.map_eq_some_iff] at first second
    obtain ⟨one, first, same⟩ := first
    obtain ⟨two, second, same'⟩ := second
    obtain ⟨oneIn, oneBucket⟩ := Bucket.mem_of_group grouped (List.mem_of_getElem? first)
    obtain ⟨twoIn, twoBucket⟩ := Bucket.mem_of_group grouped (List.mem_of_getElem? second)
    obtain ⟨rfl, rfl⟩ := Prod.mk.inj same
    obtain ⟨rfl, rfl⟩ := Prod.mk.inj same'
    exact ⟨one, oneIn, two, twoIn, oneBucket.trans twoBucket.symm, (Option.some.inj made).symm⟩
  · exact nomatch made

def CacheKey.ofPair (files : FileTree) (version : String) (reference candidate : ArtifactLocation) :
    CacheKey :=
  ⟨reference.id, candidate.id, fingerprintOf (Artifact.load files reference),
    fingerprintOf (Artifact.load files candidate), version⟩

theorem Job.key_of_pair {reference candidate : ArtifactLocation}
    (bucket : reference.id.bucket = candidate.id.bucket) (version : String) :
    (Job.ofPair files reference candidate).key version =
      .ok (CacheKey.ofPair files version reference candidate) := by
  rw [Job.key, CacheKey.ofParts]
  exact if_pos bucket

theorem CacheKey.of_pair_inj {version : String}
    {reference candidate reference' candidate' : ArtifactLocation}
    (places : (locations.map fun location => location.id.cachePlace).Nodup)
    (member : reference ∈ locations) (member' : reference' ∈ locations)
    (candidateMember : candidate ∈ locations) (candidateMember' : candidate' ∈ locations)
    (bucket : reference.id.bucket = candidate.id.bucket)
    (bucket' : reference'.id.bucket = candidate'.id.bucket)
    (same : (CacheKey.ofPair files version reference candidate).names =
      (CacheKey.ofPair files version reference' candidate').names) :
    reference = reference' ∧ candidate = candidate' := by
  simp only [CacheKey.names, List.cons.injEq] at same
  obtain ⟨-, challenge, prompt, temperature, model, file, -⟩ := same
  obtain ⟨first, second⟩ := CacheKey.file_name_inj file
  have place : reference.id.cachePlace = reference'.id.cachePlace := by
    simp only [ofPair] at challenge prompt temperature model first
    simp only [ArtifactId.cachePlace, challenge, prompt, temperature, model, first]
  obtain rfl := List.inj_on_of_nodup_map places member member' place
  have place : candidate.id.cachePlace = candidate'.id.cachePlace :=
    ArtifactId.cache_place_eq (bucket.symm.trans bucket') second
  exact ⟨rfl, List.inj_on_of_nodup_map places candidateMember candidateMember' place⟩

end Jobs

section FirstRun

variable {cache : CacheDirectory} {files files' start : FileTree} {key other : CacheKey}
variable {ours : CacheKey → Prop} {turns : List (Job × Progress)} {turn : Job × Progress}
variable {held held' : FileTree × List CacheEntry}

/-- Keys whose documents the cache can hold side by side. -/
structure CacheDirectory.Apart (cache : CacheDirectory) (files : FileTree)
    (ours : CacheKey → Prop) : Prop where
  clear : ∀ key, ours key → cache.Clear files key
  names : ∀ key other, ours key → ours other → other.names = key.names → other = key
  small : ∀ key, ours key →
    key.reference.iteration < iterationBound ∧ key.candidate.iteration < iterationBound

theorem CacheDirectory.Apart.follow (apart : cache.Apart files ours)
    (follows : cache.Follows files files') :
    cache.Apart files' ours :=
  ⟨fun key own => (apart.clear key own).follow follows, apart.names, apart.small⟩

/-- What holds after some turns that all came to their ends: the cache serves the keys of their
pairs, and whatever it serves was there at the start or is in the journal. -/
structure CacheDirectory.Settled (cache : CacheDirectory) (start : FileTree)
    (ours : CacheKey → Prop)
    (turns : List (Job × Progress)) (held : FileTree × List CacheEntry) : Prop where
  follows : cache.Follows start held.1
  served : ∀ turn ∈ turns, ∃ key, turn.1.key cache.version = .ok key ∧ ours key ∧
    cache.Serves held.1 key
  traced : ∀ key record, ours key → cache.get key held.1 = .ok (some record) →
    cache.get key start = .ok (some record) ∨ ⟨key, record⟩ ∈ held.2
  marked : ∀ entry ∈ held.2, ∃ turn ∈ turns, turn.1.key cache.version = .ok entry.key ∧
    (turn.1.Unread → entry.record.hasError = true)

theorem CacheDirectory.Settled.nothing : cache.Settled start ours [] (start, []) :=
  ⟨.refl cache start, fun _ => nofun, fun _ _ _ found => .inl found, fun _ => nofun⟩

theorem CacheDirectory.Settled.hit {record : Record} (settled : cache.Settled start ours turns held)
    (keyed : turn.1.key cache.version = .ok key) (own : ours key)
    (found : cache.get key held.1 = .ok (some record)) :
    cache.Settled start ours (turns ++ [turn]) held where
  follows := settled.follows
  traced := settled.traced
  served := by
    rw [List.forall_mem_append, List.forall_mem_singleton]
    exact ⟨settled.served, key, keyed, own, record, found⟩
  marked entry member :=
    have ⟨earlier, member, facts⟩ := settled.marked entry member
    ⟨earlier, List.mem_append_left _ member, facts⟩

theorem CacheDirectory.Settled.put {record : Record} (settled : cache.Settled start ours turns held)
    (apart : cache.Apart start ours) (keyed : turn.1.key cache.version = .ok key) (own : ours key)
    (writable : record.Writable) (put : cache.put key record held.1 = .ok files')
    (marked : turn.1.Unread → record.hasError = true) :
    cache.Settled start ours (turns ++ [turn]) (files', held.2 ++ [⟨key, record⟩]) := by
  have apart := apart.follow settled.follows
  obtain ⟨between, root, puts⟩ := (apart.clear key own).puts put
  have small := apart.small key own
  have served := puts.get_own ⟨small.1, small.2, writable⟩
  have elsewhere {key' : CacheKey} (own' : ours key') (other : key' ≠ key) (record' : Record) :
      cache.get key' files' = .ok (some record') ↔ cache.get key' held.1 = .ok (some record') :=
    puts.get_other (apart.clear key' own') (mt (apart.names key key' own own') other)
  constructor
  case follows => exact settled.follows.trans puts.follows
  case served =>
    rw [List.forall_mem_append, List.forall_mem_singleton]
    refine ⟨fun earlier member => ?_, key, keyed, own, record, served⟩
    obtain ⟨key', keyed', own', record', found⟩ := settled.served earlier member
    by_cases same : key' = key
    · exact ⟨key, same ▸ keyed', own, record, served⟩
    · exact ⟨key', keyed', own', record', (elsewhere own' same record').2 found⟩
  case traced =>
    intro key' record' own' found
    by_cases same : key' = key
    · subst same
      obtain rfl := Option.some.inj (Except.ok.inj (served.symm.trans found))
      exact .inr (List.mem_append_right _ List.mem_cons_self)
    · exact (settled.traced key' record' own' ((elsewhere own' same record').1 found)).imp id
        (List.mem_append_left _)
  case marked =>
    rw [List.forall_mem_append, List.forall_mem_singleton]
    refine ⟨fun entry member => ?_, turn, List.mem_append_right _ List.mem_cons_self, keyed, marked⟩
    obtain ⟨earlier, member, facts⟩ := settled.marked entry member
    exact ⟨earlier, List.mem_append_left _ member, facts⟩

theorem CacheDirectory.Settled.after {outcome : PairOutcome}
    (settled : cache.Settled start ours turns held)
    (taken : Taken cache.store.journaled turn.1 held outcome held') (apart : cache.Apart start ours)
    (keyed : turn.1.key cache.version = .ok key) (own : ours key) (started : outcome ≠ .cancelled)
    (fine : ∀ failure, outcome ≠ .fatal failure)
    (writable : ∀ entry ∈ held'.2, entry.record.Writable) :
    cache.Settled start ours (turns ++ [turn]) held' := by
  have here : turn.1.key cache.store.journaled.version = .ok key := by
    rwa [Store.journaled_version, CacheDirectory.store_version]
  cases taken with
  | cancelled => exact absurd rfl started
  | fatal failure => exact absurd rfl (fine failure)
  | unkeyed unkeyed => exact nomatch here.symm.trans unkeyed
  | refused keyed' refused mild =>
      rw [Store.journaled_put_error, CacheDirectory.store_put] at refused
      simp [CacheDirectory.put_refused refused] at mild
  | served keyed' found =>
      obtain rfl := Except.ok.inj (here.symm.trans keyed')
      rw [Store.journaled_get, CacheDirectory.store_get] at found
      exact settled.hit keyed own found
  | kept keyed' put marked =>
      obtain rfl := Except.ok.inj (here.symm.trans keyed')
      rw [Store.journaled_put_ok, CacheDirectory.store_put] at put
      obtain ⟨kept, put, rfl⟩ := put
      have last := writable _ (List.mem_append_right _ List.mem_cons_self)
      exact settled.put apart keyed own last put marked

end FirstRun

end Resemblance
