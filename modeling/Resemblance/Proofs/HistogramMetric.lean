import Mathlib
import Resemblance.Proofs.HistogramScores

/-!
The distance of histograms as a metric. Its sums run over the kinds that either histogram mentions,
each of them once, and take no more than both totals. In exact numbers it is what the lesser counts
leave of the greater ones: zero for equal counts, one where no kind is counted on both sides, and
never shortened by way of a third histogram.
-/

namespace Resemblance

namespace Histogram

variable {a b c : Histogram}

def kinds (a b : Histogram) : Finset String :=
  a.keys.toFinset ∪ b.keys.toFinset

theorem to_finset_either_keys (a b : Histogram) : (eitherKeys a b).toFinset = kinds a b := by
  ext kind
  rw [kinds, List.mem_toFinset, mem_either_keys, Finset.mem_union, List.mem_toFinset,
    List.mem_toFinset]

theorem mem_keys_of_count {kind : String} (some : a.count kind ≠ 0) : kind ∈ a.keys :=
  by_contra fun absent => some (count_of_not_mem absent)

theorem mem_kinds {kind : String} (some : a.count kind ≠ 0 ∨ b.count kind ≠ 0) :
    kind ∈ kinds a b := by
  rw [kinds, Finset.mem_union, List.mem_toFinset, List.mem_toFinset]
  exact some.imp mem_keys_of_count mem_keys_of_count

theorem counts_of_not_mem {kind : String} (unmentioned : kind ∉ kinds a b) :
    a.count kind = 0 ∧ b.count kind = 0 := by
  have nothing : ¬ (a.count kind ≠ 0 ∨ b.count kind ≠ 0) := mt mem_kinds unmentioned
  rwa [not_or, not_not, not_not] at nothing

theorem sum_values_eq (increasing : Increasing a.counts) {all : Finset String}
    (included : a.keys.toFinset ⊆ all) (measure : Nat → Nat) (nothing : measure 0 = 0) :
    sumOf (a.values.map measure) = ∑ kind ∈ all, measure (a.count kind) := by
  have own : ∑ kind ∈ a.keys.toFinset, measure (a.count kind) = ∑ kind ∈ all,
      measure (a.count kind) := by
    apply Finset.sum_subset included
    intro kind _ absent
    rw [count_of_not_mem fun member => absent (List.mem_toFinset.2 member), nothing]
  have counts : a.keys.map (fun kind => measure (a.count kind)) = a.values.map measure := by
    rw [keys, values, List.map_map, List.map_map]
    exact List.map_congr_left fun entry member => congrArg measure (count_of_mem increasing member)
  rw [← own, List.sum_toFinset _ increasing.nodup_keys, counts, sum_of_eq_sum]

theorem total_eq_sum (increasing : Increasing a.counts) {all : Finset String}
    (included : a.keys.toFinset ⊆ all) : sumOf a.values = ∑ kind ∈ all, a.count kind := by
  rw [← List.map_id a.values]
  exact sum_values_eq increasing included id rfl

theorem distance_ratio_eq (increasing : Increasing a.counts) (increasing' : Increasing b.counts) :
    (distanceRatio a b).part = ∑ kind ∈ kinds a b, difference (a.count kind) (b.count kind) ∧
      (distanceRatio a b).whole = ∑ kind ∈ kinds a b, max (a.count kind) (b.count kind) := by
  rw [distanceRatio]
  dsimp only
  rw [sum_paired_eq increasing increasing', sum_paired_eq increasing increasing',
    to_finset_either_keys]
  simp only [max_sub_min_eq_difference, and_self]

theorem distance_whole_le (increasing : Increasing a.counts) (increasing' : Increasing b.counts) :
    (distanceRatio a b).whole ≤ sumOf a.values + sumOf b.values := by
  rw [(distance_ratio_eq increasing increasing').2,
    total_eq_sum increasing Finset.subset_union_left,
    total_eq_sum increasing' Finset.subset_union_right, ← Finset.sum_add_distrib]
  exact Finset.sum_le_sum fun kind _ => max_le_add_of_nonneg (Nat.zero_le _) (Nat.zero_le _)

/-- The distance in exact numbers is the relative distance of the counts, over any kinds that
include all of positive count. -/
theorem distance_in_reals (increasing : Increasing a.counts) (increasing' : Increasing b.counts)
    {all : Finset String} (covered : ∀ kind, a.count kind ≠ 0 ∨ b.count kind ≠ 0 → kind ∈ all) :
    distanceIn ℝ a b = (relativeDistance all a.count b.count : ℝ) := by
  rw [distanceIn, Ratio.score_in_reals (distance_part_le_whole increasing increasing'),
    distance_value_over increasing increasing' covered]

theorem distance_ratio_of_one_kind (increasing : Increasing a.counts)
    (increasing' : Increasing b.counts)
    {kind : String} (only : ∀ other, other ≠ kind → a.count other = 0 ∧ b.count other = 0) :
    distanceRatio a b = deltaRatio (a.count kind) (b.count kind) := by
  obtain ⟨part, whole⟩ := distance_ratio_eq increasing increasing'
  have single (measure : Nat → Nat → Nat) (nothing : measure 0 0 = 0) :
      ∑ other ∈ kinds a b, measure (a.count other) (b.count other) =
        measure (a.count kind) (b.count kind) := by
    apply Finset.sum_eq_single kind
    · intro other _ apart
      rw [(only other apart).1, (only other apart).2, nothing]
    · intro unmentioned
      rw [(counts_of_not_mem unmentioned).1, (counts_of_not_mem unmentioned).2, nothing]
  rw [single difference rfl] at part
  rw [single max rfl] at whole
  rw [deltaRatio, max_sub_min_eq_difference, ← part, ← whole]

end Histogram

open Histogram (Increasing kinds distanceIn distanceRatio paired)

/-- The distance of two histograms visits every kind of either once, and its sums stay within both
totals together, so that they fit where the totals do. In exact numbers it is one minus the ratio of
the lesser counts to the greater ones, and zero without counts; it is zero for equal counts only,
one where something is counted but no kind on both sides, and satisfies the triangle inequality.
Where all counts are of one kind it is the relative difference of the two counts, in any numbers. -/
theorem histogram_distance_is_normalized_metric (a b c : Histogram)
    (increasing : Increasing a.counts)
    (increasing' : Increasing b.counts) (increasing'' : Increasing c.counts) :
    (distanceIn Float a b = Histogram.distance a b ∧ ∀ m n, deltaIn Float m n = delta m n) ∧
    (∃ visited : List String, visited.Nodup ∧
      (∀ kind, kind ∈ visited ↔ kind ∈ a.keys ∨ kind ∈ b.keys) ∧
      paired a b = visited.map fun kind => (a.count kind, b.count kind)) ∧
    ((distanceRatio a b).part ≤ (distanceRatio a b).whole ∧
      (distanceRatio a b).whole ≤ sumOf a.values + sumOf b.values) ∧
    ((∃ kind, 0 < a.count kind ∨ 0 < b.count kind) →
      distanceIn ℝ a b = 1 - ((∑ kind ∈ kinds a b, min (a.count kind) (b.count kind) : ℕ) : ℝ) /
        (∑ kind ∈ kinds a b, max (a.count kind) (b.count kind) : ℕ)) ∧
    ((∀ kind, a.count kind = 0 ∧ b.count kind = 0) → distanceIn ℝ a b = 0) ∧
    (distanceIn ℝ a b = 0 ↔ ∀ kind, a.count kind = b.count kind) ∧
    (distanceIn ℝ a b = 1 ↔
      (∃ kind, 0 < a.count kind ∨ 0 < b.count kind) ∧ ∀ kind, a.count kind = 0 ∨ b.count kind = 0) ∧
    distanceIn ℝ a c ≤ distanceIn ℝ a b + distanceIn ℝ b c ∧
    ∀ kind, (∀ other, other ≠ kind → a.count other = 0 ∧ b.count other = 0) →
      ∀ (α : Type) [Scalar α], distanceIn α a b = deltaIn α (a.count kind) (b.count kind) := by
  have exact := Histogram.distance_in_reals increasing increasing' fun kind => Histogram.mem_kinds
  have zero : distanceIn ℝ a b = 0 ↔ ∀ kind, a.count kind = b.count kind := by
    rw [exact, Rat.cast_eq_zero, relative_distance_eq_zero_iff]
    refine ⟨fun same kind => ?_, fun same kind _ => same kind⟩
    by_cases mentioned : kind ∈ kinds a b
    · exact same kind mentioned
    · have nothing := Histogram.counts_of_not_mem mentioned
      exact nothing.1.trans nothing.2.symm
  refine ⟨⟨Histogram.distance_in_doubles a b, delta_in_doubles⟩, ?_,
    ⟨Histogram.distance_part_le_whole increasing increasing',
     Histogram.distance_whole_le increasing increasing'⟩, ?_, ?_, zero, ?_, ?_, ?_⟩
  · exact ⟨Histogram.eitherKeys a b, Histogram.either_keys_nodup increasing increasing',
      fun kind => Histogram.mem_either_keys, Histogram.paired_eq increasing increasing'⟩
  · rintro ⟨kind, some⟩
    have member : kind ∈ kinds a b := Histogram.mem_kinds (by omega)
    have positive : 0 < ∑ kind ∈ kinds a b, max (a.count kind) (b.count kind) :=
      Finset.sum_pos' (fun _ _ => Nat.zero_le _) ⟨kind, member, by omega⟩
    rw [exact, relative_distance_eq positive]
    push_cast
    rfl
  · intro nothing
    exact zero.2 fun kind => (nothing kind).1.trans (nothing kind).2.symm
  · have one : (relativeDistance (kinds a b) a.count b.count : ℝ) = 1 ↔
        relativeDistance (kinds a b) a.count b.count = 1 := by
      norm_cast
    rw [exact, one, relative_distance_eq_one_iff]
    refine and_congr ⟨?_, ?_⟩ ⟨fun apart kind => ?_, fun apart kind _ => apart kind⟩
    · rintro ⟨kind, -, some⟩
      exact ⟨kind, by omega⟩
    · rintro ⟨kind, some⟩
      exact ⟨kind, Histogram.mem_kinds (by omega), by omega⟩
    · by_cases mentioned : kind ∈ kinds a b
      · exact apart kind mentioned
      · exact .inl (Histogram.counts_of_not_mem mentioned).1
  · -- All three are taken over the kinds of all three histograms.
    have all {x y : Histogram} (own : kinds x y ⊆ kinds a b ∪ kinds b c ∪ kinds a c) (kind : String)
        (some : x.count kind ≠ 0 ∨ y.count kind ≠ 0) : kind ∈ kinds a b ∪ kinds b c ∪ kinds a c :=
      own (Histogram.mem_kinds some)
    rw [Histogram.distance_in_reals increasing increasing'' (all Finset.subset_union_right),
      Histogram.distance_in_reals increasing increasing'
        (all (Finset.subset_union_left.trans Finset.subset_union_left)),
      Histogram.distance_in_reals increasing' increasing''
        (all (Finset.subset_union_right.trans Finset.subset_union_left))]
    exact_mod_cast relative_distance_triangle _ a.count b.count c.count
  · intro kind only α _
    rw [distanceIn, deltaIn, Histogram.distance_ratio_of_one_kind increasing increasing' only]

/-- Two histograms with one kind in common and a third that shares no kind with the first, and two
of a single kind. -/
theorem one_of_three_kinds_in_common :
    let a : Histogram := ⟨[("a", 2), ("b", 1)]⟩
    let b : Histogram := ⟨[("a", 1), ("c", 1)]⟩
    let c : Histogram := ⟨[("c", 3)]⟩
    let d : Histogram := ⟨[("c", 5)]⟩
    (Increasing a.counts ∧ Increasing b.counts ∧ Increasing c.counts ∧ Increasing d.counts) ∧
      distanceIn ℝ a b = 3 / 4 ∧ distanceIn ℝ a c = 1 ∧
      distanceIn ℝ a c ≤ distanceIn ℝ a b + distanceIn ℝ b c ∧
      distanceIn ℝ c d = deltaIn ℝ 3 5 := by
  intro a b c d
  have first : Increasing a.counts := by unfold Increasing; decide
  have second : Increasing b.counts := by unfold Increasing; decide
  have third : Increasing c.counts := by unfold Increasing; decide
  have fourth : Increasing d.counts := by unfold Increasing; decide
  obtain ⟨-, -, -, ratio, -, -, -, triangle, -⟩ :=
    histogram_distance_is_normalized_metric a b c first second third
  obtain ⟨-, -, -, -, -, -, one, -, -⟩ :=
    histogram_distance_is_normalized_metric a c c first third third
  obtain ⟨-, -, -, -, -, -, -, -, single⟩ :=
    histogram_distance_is_normalized_metric c d d third fourth fourth
  have kinds_eq : kinds a b = {"a", "b", "c"} := by decide
  refine ⟨⟨first, second, third, fourth⟩, ?_,
    one.2 ⟨⟨"a", by decide⟩, fun kind => ?_⟩, triangle, ?_⟩
  · rw [ratio ⟨"a", by decide⟩, kinds_eq]
    have lesser : ∑ kind ∈ ({"a", "b", "c"} : Finset String), min (a.count kind) (b.count kind) =
        1 := by decide
    have greater : ∑ kind ∈ ({"a", "b", "c"} : Finset String),
        max (a.count kind) (b.count kind) = 4 := by decide
    rw [lesser, greater]
    norm_num
  · by_cases mentioned : kind = "c"
    · exact .inl (mentioned ▸ by decide)
    · refine .inr (Histogram.count_of_not_mem fun member => mentioned ?_)
      exact List.mem_singleton.1 member
  · have only (other : String) (apart : other ≠ "c") : c.count other = 0 ∧ d.count other = 0 :=
      ⟨Histogram.count_of_not_mem fun member => apart (List.mem_singleton.1 member),
        Histogram.count_of_not_mem fun member => apart (List.mem_singleton.1 member)⟩
    exact single "c" only ℝ

end Resemblance
