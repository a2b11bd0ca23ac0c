import Mathlib.Data.List.Nodup
import Resemblance.Proofs.SettledRun
import Resemblance.Proofs.Tally

/-!
The pairs of a run: all ordered pairs of artifacts of one bucket and of different iterations, each
of them once. In a bucket of distinct iterations each artifact is paired with all others.
-/

namespace Resemblance

variable {files : FileTree} {bucket : Bucket} {locations : List ArtifactLocation} {job : Job}

section Groups

theorem Bucket.members_perm (grouped : bucket ∈ Bucket.group locations) :
    bucket.members.Perm (locations.filter fun location => location.id.bucket == bucket.key) := by
  obtain ⟨key, -, rfl⟩ := List.mem_map.1 grouped
  exact List.mergeSort_perm _ _

theorem Bucket.keys_nodup (locations : List ArtifactLocation) :
    ((Bucket.group locations).map Bucket.key).Nodup := by
  rw [Bucket.group, List.map_map]
  exact (List.map_id _).symm ▸ nodup_distinct _ _

theorem Bucket.exists_group {location : ArtifactLocation} (member : location ∈ locations) :
    ∃ bucket ∈ Bucket.group locations, bucket.key = location.id.bucket :=
  ⟨_, List.mem_map_of_mem (mem_distinct.2 (List.mem_map_of_mem member)), rfl⟩

theorem Bucket.mem_members_iff (grouped : bucket ∈ Bucket.group locations)
    {location : ArtifactLocation} :
    location ∈ bucket.members ↔ location ∈ locations ∧ location.id.bucket = bucket.key := by
  rw [(Bucket.members_perm grouped).mem_iff, List.mem_filter, beq_iff_eq]

end Groups

section Pairs

theorem Bucket.ordered_pairs_picked {pick : Nat × Nat → Option Job}
    {pair : ArtifactLocation → ArtifactLocation → Job}
    (picked : ∀ reference ∈ bucket.members.zipIdx, ∀ candidate ∈ bucket.members.zipIdx,
      pick (reference.2, candidate.2) = some (pair reference.1 candidate.1)) :
    bucket.orderedPairs.filterMap pick = bucket.members.flatMap fun reference =>
      (bucket.members.filter fun candidate => reference.id.iteration != candidate.id.iteration).map
        (pair reference) := by
  let others (reference : ArtifactLocation) : List ArtifactLocation :=
    bucket.members.filter fun candidate => reference.id.iteration != candidate.id.iteration
  have row (reference : ArtifactLocation × Nat) (member : reference ∈ bucket.members.zipIdx) :
      ((bucket.members.zipIdx.filter fun candidate =>
          reference.1.id.iteration != candidate.1.id.iteration).map fun candidate =>
        (reference.2, candidate.2)).filterMap pick =
            (others reference.1).map (pair reference.1) := by
    have each : ∀ candidate ∈ bucket.members.zipIdx.filter fun candidate =>
        reference.1.id.iteration != candidate.1.id.iteration,
        pick (reference.2, candidate.2) = some (pair reference.1 candidate.1) :=
            fun candidate there =>
      picked reference member candidate (List.mem_of_mem_filter there)
    rw [List.filterMap_map]
    refine (List.filterMap_eq_map_iff_forall_eq_some.2 each).trans ?_
    show _ = (bucket.members.filter fun candidate => reference.1.id.iteration !=
        candidate.id.iteration).map _
    conv_rhs => rw [← List.zipIdx_map_fst 0 bucket.members]
    rw [List.filter_map, List.map_map]
    rfl
  rw [Bucket.orderedPairs, List.filterMap_flatMap, List.flatMap_congr row]
  show _ = bucket.members.flatMap fun reference => (others reference).map (pair reference)
  conv_rhs => rw [← List.zipIdx_map_fst 0 bucket.members]
  rw [List.flatMap_map]

theorem Job.of_bucket_eq (files : FileTree) (bucket : Bucket) :
    Job.ofBucket files bucket = bucket.members.flatMap fun reference =>
      (bucket.members.filter fun candidate => reference.id.iteration != candidate.id.iteration).map
        (Job.ofPair files reference) := by
  refine Bucket.ordered_pairs_picked fun reference member candidate member' => ?_
  simp only [List.getElem?_map, List.mem_zipIdx_iff_getElem?.1 member,
    List.mem_zipIdx_iff_getElem?.1 member', Option.map_some]
  rfl

theorem Job.mem_of_locations_iff :
    job ∈ Job.ofLocations files locations ↔
      ∃ reference ∈ locations, ∃ candidate ∈ locations, reference.id.bucket = candidate.id.bucket ∧
        reference.id.iteration ≠ candidate.id.iteration ∧
        job = Job.ofPair files reference candidate := by
  simp only [Job.ofLocations, Job.of_bucket_eq, List.mem_flatMap, List.mem_map, List.mem_filter,
    bne_iff_ne]
  constructor
  · rintro ⟨bucket, grouped, reference, member, candidate, ⟨member', apart⟩, rfl⟩
    obtain ⟨first, key⟩ := (Bucket.mem_members_iff grouped).1 member
    obtain ⟨second, key'⟩ := (Bucket.mem_members_iff grouped).1 member'
    exact ⟨reference, first, candidate, second, key.trans key'.symm, apart, rfl⟩
  · rintro ⟨reference, first, candidate, second, same, apart, rfl⟩
    obtain ⟨bucket, grouped, key⟩ := Bucket.exists_group first
    exact ⟨bucket, grouped, reference,
      (Bucket.mem_members_iff grouped).2 ⟨first, key.symm⟩, candidate,
      ⟨(Bucket.mem_members_iff grouped).2 ⟨second, same.symm.trans key.symm⟩, apart⟩, rfl⟩

def Job.ids (job : Job) : ArtifactId × ArtifactId :=
  (job.referenceId, job.candidateId)

theorem Job.ids_of_bucket_nodup (ids : (bucket.members.map ArtifactLocation.id).Nodup) :
    ((Job.ofBucket files bucket).map Job.ids).Nodup := by
  rw [Job.of_bucket_eq, List.map_flatMap, List.nodup_flatMap]
  constructor
  · intro reference _
    rw [List.map_map]
    have candidates := (List.filter_sublist (p := fun candidate : ArtifactLocation =>
      reference.id.iteration != candidate.id.iteration)).map ArtifactLocation.id |>.nodup ids
    exact List.Nodup.of_map Prod.snd (by rw [List.map_map]; exact candidates)
  · refine (List.pairwise_map.1 ids).imp fun {reference other} apart => ?_
    have first (location : ArtifactLocation) :
        ∀ ids ∈ ((bucket.members.filter fun candidate =>
            location.id.iteration != candidate.id.iteration).map
              (Job.ofPair files location)).map Job.ids,
          ids.1 = location.id := by
      simp only [List.map_map, List.forall_mem_map]
      exact fun _ _ => rfl
    exact fun ids here there =>
      apart ((first reference ids here).symm.trans (first other ids there))

theorem Job.ids_nodup (ids : (locations.map ArtifactLocation.id).Nodup) :
    ((Job.ofLocations files locations).map Job.ids).Nodup := by
  rw [Job.ofLocations, List.map_flatMap, List.nodup_flatMap]
  constructor
  · intro bucket grouped
    apply Job.ids_of_bucket_nodup
    exact (((Bucket.members_perm grouped).map _).nodup_iff).2
      ((List.filter_sublist.map _).nodup ids)
  · have keys := List.pairwise_map.1 (Bucket.keys_nodup locations)
    refine keys.imp_of_mem fun {bucket other} grouped grouped' apart => ?_
    have first {bucket : Bucket} (grouped : bucket ∈ Bucket.group locations) :
        ∀ ids ∈ (Job.ofBucket files bucket).map Job.ids, ids.1.bucket = bucket.key := by
      rw [Job.of_bucket_eq, List.forall_mem_map]
      intro job there
      obtain ⟨reference, member, row⟩ := List.mem_flatMap.1 there
      obtain ⟨candidate, -, rfl⟩ := List.mem_map.1 row
      exact ((Bucket.mem_members_iff grouped).1 member).2
    exact fun ids here there =>
      apart ((first grouped ids here).symm.trans (first grouped' ids there))

end Pairs

section Counts

variable {members : List ArtifactLocation}

end Counts

end Resemblance
