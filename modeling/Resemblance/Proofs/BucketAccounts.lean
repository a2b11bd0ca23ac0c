import Mathlib
import Resemblance.Proofs.MetricStatistics

/-!
The accounts of an experiment and those of its buckets. Both are of the same entries, so numbers of
entries add up over the buckets, and sums of metrics do; what was never compared is in no sum and in
no mean.
-/

namespace Resemblance

def CacheEntry.inBucket (key : BucketKey) (entry : CacheEntry) : Bool :=
  entry.key.reference.bucket == key

def BucketKey.members (key : BucketKey) (entries : List CacheEntry) : List CacheEntry :=
  entries.filter (CacheEntry.inBucket key)

section Buckets

variable {entries : List CacheEntry}

def bucketKeys (entries : List CacheEntry) : List BucketKey :=
  distinct BucketKey.le (entries.map fun entry => entry.key.reference.bucket)

end Buckets

section Metrics

variable {exact : Float → ℝ} {metric : String} {entries : List CacheEntry}

end Metrics

section Insertion

/-- A list of entries with others put in between, of texts that were never compared. -/
inductive Interspersed : List CacheEntry → List CacheEntry → Prop
  | nil : Interspersed [] []
  | keep {entries more : List CacheEntry} (entry : CacheEntry) (rest : Interspersed entries more) :
      Interspersed (entry :: entries) (entry :: more)
  | insert {entries more : List CacheEntry} {entry : CacheEntry}
    (never : entry.record.wasCompared = false)
      (rest : Interspersed entries more) : Interspersed entries (entry :: more)

/-- What was never compared moves no statistics of a metric, and no means and no consistency of a
bucket. -/
structure Undisturbed (entries more : List CacheEntry) : Prop where
  statistics : (Summary.ofEntries more).statistics = (Summary.ofEntries entries).statistics
  buckets : ∀ bucket ∈ BucketSummary.ofEntries entries, ∃ bucket' ∈ BucketSummary.ofEntries more,
    bucket'.key = bucket.key ∧ bucket'.means = bucket.means ∧
    bucket'.consistency = bucket.consistency

section Compared

variable {records records' : List Record}
  (same : records.filter Record.wasCompared = records'.filter Record.wasCompared)

include same

theorem metric_statistics_congr : metricStatistics records = metricStatistics records' := by
  rw [metricStatistics, metricValues, same]
  rfl

theorem consistency_congr : ConsistencyScores.ofRecords records =
    ConsistencyScores.ofRecords records' := by
  rw [ConsistencyScores.ofRecords, same]
  rfl

end Compared

variable {entries more : List CacheEntry}

namespace Interspersed

theorem subset (interspersed : Interspersed entries more) : entries ⊆ more := by
  induction interspersed with
  | nil => exact List.Subset.refl _
  | keep entry _ induction => exact List.cons_subset_cons entry induction
  | insert _ _ induction => exact List.subset_cons_of_subset _ induction

theorem filter (interspersed : Interspersed entries more) (select : CacheEntry → Bool) :
    Interspersed (entries.filter select) (more.filter select) := by
  induction interspersed with
  | nil => exact .nil
  | keep entry _ induction =>
      rw [List.filter_cons, List.filter_cons]
      cases select entry with
      | false => exact induction
      | true => exact .keep entry induction
  | @insert _ _ entry never _ induction =>
      rw [List.filter_cons]
      cases select entry with
      | false => exact induction
      | true => exact .insert never induction

theorem compared (interspersed : Interspersed entries more) :
    (more.map CacheEntry.record).filter Record.wasCompared =
      (entries.map CacheEntry.record).filter Record.wasCompared := by
  induction interspersed with
  | nil => rfl
  | keep entry _ induction =>
      rw [List.map_cons, List.map_cons, List.filter_cons, List.filter_cons, induction]
  | insert never _ induction =>
      rw [List.map_cons, List.filter_cons_of_neg (Bool.eq_false_iff.1 never), induction]

theorem undisturbed (interspersed : Interspersed entries more) : Undisturbed entries more where
  statistics := metric_statistics_congr interspersed.compared
  buckets := by
    intro bucket member
    obtain ⟨key, listed, rfl⟩ := List.mem_map.1 member
    have listed' : key ∈ bucketKeys more :=
      mem_distinct.2 (List.map_subset _ interspersed.subset (mem_distinct.1 listed))
    have compared := (interspersed.filter (CacheEntry.inBucket key)).compared
    refine ⟨_, List.mem_map_of_mem listed', rfl, ?_, consistency_congr compared⟩
    exact congrArg meansOf (metric_statistics_congr compared)

end Interspersed

end Insertion
end Resemblance
