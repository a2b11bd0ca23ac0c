import Mathlib
import Resemblance.Proofs.OrderedPairs

/-!
Buckets of artifacts. Grouping puts each artifact into the bucket of its key and nowhere else, the
buckets in the order of their keys, and the artifacts of a bucket by iteration, where those of one
iteration keep their order. A bucket pairs up the positions of members of different iterations, both
ways, and each pair once; so of all pairs of positions those within an iteration are missing.
-/

namespace Resemblance

def BucketKey.texts (key : BucketKey) : List String :=
  [key.model, key.challenge, key.prompt, key.temperature]

theorem BucketKey.texts_injective {a b : BucketKey} (same : a.texts = b.texts) : a = b := by
  obtain ⟨model, challenge, prompt, temperature⟩ := a
  obtain ⟨model', challenge', prompt', temperature'⟩ := b
  simpa [texts] using same

theorem BucketKey.distinct_increasing (keys : List BucketKey) :
    (distinct BucketKey.le keys).Pairwise fun a b => a.texts < b.texts := by
  have ordered : ∀ a b, BucketKey.le a b = textsLe a.texts b.texts := fun _ _ => rfl
  exact Resemblance.distinct_increasing ordered (fun _ _ => texts_injective) keys

namespace Bucket

variable {locations : List ArtifactLocation} {bucket : Bucket}

section Sorting

/-- A sorted list has those of its things that are level with each other in the order in which they
stood. -/
theorem filter_merge_sort {α : Type} {le : α → α → Bool} {keep : α → Bool}
    (trans : ∀ a b c, le a b = true → le b c = true → le a c = true)
    (total : ∀ a b, (le a b || le b a) = true)
    (level : ∀ a b, keep a = true → keep b = true → le a b = true) (xs : List α) :
    (xs.mergeSort le).filter keep = xs.filter keep := by
  have same : (xs.filter keep).Pairwise fun a b => le a b = true :=
    List.pairwise_of_forall_mem_list fun a first b second =>
      level a b (List.mem_filter.1 first).2 (List.mem_filter.1 second).2
  have kept := (List.sublist_mergeSort trans total same List.filter_sublist).filter keep
  rw [List.filter_filter, List.filter_congr fun x _ => Bool.and_self (keep x)] at kept
  exact (kept.eq_of_length ((List.mergeSort_perm xs le).filter keep).length_eq.symm).symm

theorem iteration_le_total (a b : ArtifactLocation) :
    (decide (a.id.iteration ≤ b.id.iteration) || decide (b.id.iteration ≤ a.id.iteration)) =
      true := by
  rw [Bool.or_eq_true, decide_eq_true_iff, decide_eq_true_iff]
  exact Nat.le_total _ _

theorem iteration_le_trans (a b c : ArtifactLocation)
    (first : decide (a.id.iteration ≤ b.id.iteration) = true)
    (second : decide (b.id.iteration ≤ c.id.iteration) = true) :
    decide (a.id.iteration ≤ c.id.iteration) = true :=
  decide_eq_true ((of_decide_eq_true first).trans (of_decide_eq_true second))

end Sorting

section Grouping

/-- What it is for buckets to be a partition of some artifacts: together they are these artifacts,
each of which is a member of the one bucket of its key, with those that differ from it in their
iterations only; keys increase strictly and no bucket is empty; members are ordered by iteration,
and those of one iteration stand as they stood. -/
structure Partitions (locations : List ArtifactLocation) (buckets : List Bucket) : Prop where
  whole : (buckets.flatMap Bucket.members).Perm locations
  own : ∀ location ∈ locations, ∃ bucket : Bucket, bucket.key = location.id.bucket ∧
    buckets.filter (fun bucket => location ∈ bucket.members) = [bucket]
  together : ∀ a ∈ locations, ∀ b ∈ locations,
    (∃ bucket ∈ buckets, a ∈ bucket.members ∧ b ∈ bucket.members) ↔
      a.id.model = b.id.model ∧ a.id.challenge = b.id.challenge ∧ a.id.prompt = b.id.prompt ∧
        a.id.temperature = b.id.temperature
  keys : buckets.Pairwise fun a b => a.key.texts < b.key.texts
  filled : ∀ bucket ∈ buckets, bucket.members ≠ []
  ordered : ∀ bucket ∈ buckets, bucket.members.Pairwise fun a b => a.id.iteration ≤ b.id.iteration
  stable : ∀ bucket ∈ buckets, ∀ iteration,
    (bucket.members.filter fun location => location.id.iteration == iteration) =
      locations.filter fun location =>
        location.id.bucket == bucket.key && location.id.iteration == iteration

theorem group_whole (locations : List ArtifactLocation) :
    ((group locations).flatMap members).Perm locations := by
  have members : ∀ key : BucketKey, List.Perm
      ((locations.filter fun location => location.id.bucket == key).mergeSort
        fun a b => a.id.iteration ≤ b.id.iteration)
      (locations.filter fun location => location.id.bucket == key) :=
    fun _ => List.mergeSort_perm _ _
  rw [group, List.flatMap_map]
  exact (List.Perm.flatMap_left _ fun key _ => members key).trans
    (groups_perm (nodup_distinct _ _) locations fun _ listed =>
      mem_distinct.2 (List.mem_map_of_mem listed))

theorem keys_increase (locations : List ArtifactLocation) :
    (group locations).Pairwise fun a b => a.key.texts < b.key.texts := by
  rw [group, List.pairwise_map]
  exact BucketKey.distinct_increasing _

theorem group_own {location : ArtifactLocation} (listed : location ∈ locations) :
    ∃ bucket : Bucket, bucket.key = location.id.bucket ∧
      (group locations).filter (fun bucket => location ∈ bucket.members) = [bucket] := by
  obtain ⟨bucket, grouped, own⟩ := exists_group listed
  have apart := keys_nodup locations
  refine ⟨bucket, own, List.perm_singleton.1 ((List.perm_ext_iff_of_nodup (apart.of_map.filter _)
    (List.nodup_singleton bucket)).2 fun other => ?_)⟩
  rw [List.mem_filter, decide_eq_true_iff, List.mem_singleton]
  constructor
  · rintro ⟨grouped', member⟩
    have own' := ((mem_members_iff grouped').1 member).2
    exact List.inj_on_of_nodup_map apart grouped' grouped (own'.symm.trans own.symm)
  · rintro rfl
    exact ⟨grouped, (mem_members_iff grouped).2 ⟨listed, own.symm⟩⟩

theorem grouped_together {a b : ArtifactLocation} (first : a ∈ locations) (second : b ∈ locations) :
    (∃ bucket ∈ group locations, a ∈ bucket.members ∧ b ∈ bucket.members) ↔
      a.id.model = b.id.model ∧ a.id.challenge = b.id.challenge ∧ a.id.prompt = b.id.prompt ∧
        a.id.temperature = b.id.temperature := by
  rw [← ArtifactId.bucket_eq_iff]
  constructor
  · rintro ⟨bucket, grouped, one, two⟩
    exact ((mem_members_iff grouped).1 one).2.trans ((mem_members_iff grouped).1 two).2.symm
  · intro same
    obtain ⟨bucket, grouped, own⟩ := exists_group first
    exact ⟨bucket, grouped, (mem_members_iff grouped).2 ⟨first, own.symm⟩,
      (mem_members_iff grouped).2 ⟨second, same.symm.trans own.symm⟩⟩

theorem members_filled (grouped : bucket ∈ group locations) : bucket.members ≠ [] := by
  obtain ⟨key, listed, rfl⟩ := List.mem_map.1 grouped
  obtain ⟨location, member, own⟩ := List.mem_map.1 (mem_distinct.1 listed)
  exact List.ne_nil_of_mem ((mem_members_iff grouped).2 ⟨member, own⟩)

theorem members_ordered (grouped : bucket ∈ group locations) :
    bucket.members.Pairwise fun a b => a.id.iteration ≤ b.id.iteration := by
  obtain ⟨key, -, rfl⟩ := List.mem_map.1 grouped
  exact (List.pairwise_mergeSort iteration_le_trans iteration_le_total _).imp of_decide_eq_true

/-- Sorting by iteration leaves the members of one iteration as they stood. -/
theorem members_stable (grouped : bucket ∈ group locations) (iteration : Nat) :
    (bucket.members.filter fun location => location.id.iteration == iteration) =
      locations.filter fun location =>
        location.id.bucket == bucket.key && location.id.iteration == iteration := by
  obtain ⟨key, -, rfl⟩ := List.mem_map.1 grouped
  have level : ∀ a b : ArtifactLocation, (a.id.iteration == iteration) = true →
      (b.id.iteration == iteration) = true → decide (a.id.iteration ≤ b.id.iteration) = true := by
    intro a b first second
    exact decide_eq_true ((eq_of_beq first).trans (eq_of_beq second).symm).le
  refine (filter_merge_sort iteration_le_trans iteration_le_total level _).trans ?_
  rw [List.filter_filter]
  exact List.filter_congr fun _ _ => Bool.and_comm _ _

end Grouping

section Pairing

def iterations (bucket : Bucket) : List Nat :=
  bucket.members.map fun location => location.id.iteration

/-- What it is for a bucket to pair up its members. -/
structure PairsUp (bucket : Bucket) : Prop where
  listed : ∀ first second, (first, second) ∈ bucket.orderedPairs ↔
    ∃ i j, bucket.iterations[first]? = some i ∧ bucket.iterations[second]? = some j ∧ i ≠ j
  once : bucket.orderedPairs.Nodup
  swapped : ∀ first second, (first, second) ∈ bucket.orderedPairs →
    (second, first) ∈ bucket.orderedPairs
  count : bucket.orderedPairs.length + ∑ i ∈ bucket.iterations.toFinset,
    bucket.iterations.count i ^ 2 =
    bucket.members.length ^ 2

theorem mem_ordered_pairs (bucket : Bucket) (first second : Nat) :
    (first, second) ∈ bucket.orderedPairs ↔
      ∃ i j, bucket.iterations[first]? = some i ∧ bucket.iterations[second]? = some j ∧ i ≠ j := by
  simp only [orderedPairs, List.mem_flatMap, List.mem_map, List.mem_filter,
    List.mem_zipIdx_iff_getElem?, iterations, List.getElem?_map, Option.map_eq_some_iff, bne_iff_ne,
    Prod.mk.injEq]
  constructor
  · rintro ⟨reference, there, candidate, ⟨there', apart⟩, rfl, rfl⟩
    exact ⟨_, _, ⟨_, there, rfl⟩, ⟨_, there', rfl⟩, apart⟩
  · rintro ⟨_, _, ⟨reference, there, rfl⟩, ⟨candidate, there', rfl⟩, apart⟩
    exact ⟨(reference, first), there, (candidate, second), ⟨there', apart⟩, rfl, rfl⟩

theorem ordered_pairs_nodup (bucket : Bucket) : bucket.orderedPairs.Nodup := by
  have places := List.nodup_zipIdx_map_snd bucket.members
  rw [orderedPairs, List.nodup_flatMap]
  constructor
  · intro reference _
    have row := (List.filter_sublist (p := fun candidate : ArtifactLocation × Nat =>
      reference.1.id.iteration != candidate.1.id.iteration)).map Prod.snd |>.nodup places
    exact List.Nodup.of_map Prod.snd (by rw [List.map_map]; exact row)
  · refine (List.pairwise_map.1 places).imp fun {reference other} apart pair here there => ?_
    obtain ⟨_, _, rfl⟩ := List.mem_map.1 here
    obtain ⟨_, _, same⟩ := List.mem_map.1 there
    exact apart (Prod.mk.inj same).1.symm

theorem ordered_pairs_length (bucket : Bucket) :
    bucket.orderedPairs.length =
      (bucket.iterations.map fun i => bucket.iterations.countP fun j => i != j).sum := by
  have row (reference : ArtifactLocation × Nat) :
      ((bucket.members.zipIdx.filter fun candidate =>
          reference.1.id.iteration != candidate.1.id.iteration).map fun candidate =>
        (reference.2, candidate.2)).length =
      bucket.iterations.countP fun j => reference.1.id.iteration != j := by
    rw [List.length_map, ← List.countP_eq_length_filter, iterations, List.countP_map]
    conv_rhs => rw [← List.zipIdx_map_fst 0 bucket.members, List.countP_map]
    rfl
  have rows : bucket.members.zipIdx.map (fun reference =>
      bucket.iterations.countP fun j => reference.1.id.iteration != j) =
      bucket.iterations.map fun i => bucket.iterations.countP fun j => i != j := by
    have places : bucket.iterations = bucket.members.zipIdx.map fun reference =>
        reference.1.id.iteration := by
      conv_lhs => rw [iterations, ← List.zipIdx_map_fst 0 bucket.members, List.map_map]
      rfl
    conv_rhs => rw [places, List.map_map, ← places]
    rfl
  rw [orderedPairs, List.length_flatMap, List.map_congr_left fun reference _ => row reference, rows]

theorem ordered_pairs_count (bucket : Bucket) :
    bucket.orderedPairs.length + ∑ i ∈ bucket.iterations.toFinset, bucket.iterations.count i ^ 2 =
      bucket.members.length ^ 2 := by
  have squares : ∑ i ∈ bucket.iterations.toFinset, bucket.iterations.count i ^ 2 =
      (bucket.iterations.map fun i => bucket.iterations.count i).sum := by
    simp only [Finset.sum_list_map_count, smul_eq_mul, pow_two]
  have row (i : Nat) : (bucket.iterations.countP fun j => i != j) + bucket.iterations.count i =
      bucket.members.length := by
    rw [← List.length_map (f := fun location : ArtifactLocation => location.id.iteration)]
    rw [List.length_eq_countP_add_countP fun j => i != j, List.count]
    refine congrArg _ (List.countP_congr fun j _ => ?_)
    rw [decide_eq_true_iff, bne_iff_ne, not_not, beq_iff_eq, eq_comm]
  rw [squares, ordered_pairs_length, ← List.sum_map_add, List.map_congr_left fun i _ => row i,
    List.map_const', List.sum_replicate_nat, iterations, List.length_map, pow_two]

end Pairing

/-- Grouping partitions artifacts into buckets, and every bucket pairs up its members. -/
theorem buckets_partition_and_pair_up (locations : List ArtifactLocation) :
    Partitions locations (group locations) ∧ ∀ bucket : Bucket, bucket.PairsUp := by
  refine ⟨⟨group_whole locations, fun _ => group_own, fun _ first _ => grouped_together first,
    keys_increase locations, fun _ => members_filled, fun _ => members_ordered,
    fun _ => members_stable⟩, fun bucket => ⟨mem_ordered_pairs bucket, ordered_pairs_nodup bucket,
    ?_, ordered_pairs_count bucket⟩⟩
  intro first second listed
  obtain ⟨i, j, here, there, apart⟩ := (mem_ordered_pairs bucket first second).1 listed
  exact (mem_ordered_pairs bucket second first).2 ⟨j, i, there, here, apart.symm⟩

end Bucket

end Resemblance
