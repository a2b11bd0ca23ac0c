import Mathlib.Algebra.BigOperators.Ring.Finset
import Mathlib.Algebra.Order.BigOperators.Group.Finset
import Mathlib.Algebra.Order.Field.Rat
import Mathlib.Tactic.FieldSimp
import Mathlib.Tactic.Linarith
import Resemblance.Proofs.Symmetry

/-!
The distance of two histograms in exact arithmetic. Over any kinds that include those of both, it
relates the summed differences of the counts to the summed greater ones, so that it is at least the
relative difference of the totals.
-/

namespace Resemblance

def difference (m n : Nat) : Nat :=
  ((m : Int) - n).natAbs

theorem max_sub_min_eq_difference (m n : Nat) : max m n - min m n = difference m n := by
  rw [difference]
  omega

theorem two_mul_max (m n : Nat) : 2 * max m n = m + n + difference m n := by
  rw [difference]
  omega

def Ratio.value (ratio : Ratio) : ℚ :=
  ratio.part / ratio.whole

namespace Ratio

variable {ratio other : Ratio}

theorem value_nonneg (ratio : Ratio) : 0 ≤ ratio.value :=
  div_nonneg (Nat.cast_nonneg _) (Nat.cast_nonneg _)

theorem value_le_one (bounded : ratio.part ≤ ratio.whole) : ratio.value ≤ 1 :=
  div_le_one_of_le₀ (Nat.cast_le.2 bounded) (Nat.cast_nonneg _)

end Ratio

theorem sum_of_eq_sum (numbers : List Nat) : sumOf numbers = numbers.sum := by
  induction numbers with
  | nil => rfl
  | cons n rest ih => rw [sumOf, List.sum_cons, ih]

namespace Histogram

open Finset (sum_congr sum_le_sum)

variable {a b : Histogram}

theorem either_keys_nodup (increasing : Increasing a.counts) (increasing' : Increasing b.counts) :
    (eitherKeys a b).Nodup := by
  refine increasing.nodup_keys.append (increasing'.nodup_keys.filter _) ?_
  intro kind member other
  simp only [List.mem_filter, decide_eq_true_eq] at other
  exact other.2 member

theorem mem_either_keys {kind : String} : kind ∈ eitherKeys a b ↔
    kind ∈ a.keys ∨ kind ∈ b.keys := by
  simp only [eitherKeys, List.mem_append, List.mem_filter, decide_eq_true_eq]
  tauto

theorem sum_paired_eq (increasing : Increasing a.counts) (increasing' : Increasing b.counts)
    (measure : Nat × Nat → Nat) :
    sumOf ((paired a b).map measure) =
      ∑ kind ∈ (eitherKeys a b).toFinset, measure (a.count kind, b.count kind) := by
  rw [paired_eq increasing increasing', sum_of_eq_sum, List.map_map,
    List.sum_toFinset _ (either_keys_nodup increasing increasing')]
  rfl

theorem distance_part_le_whole (increasing : Increasing a.counts)
    (increasing' : Increasing b.counts) :
    (distanceRatio a b).part ≤ (distanceRatio a b).whole := by
  rw [distanceRatio]
  dsimp only
  rw [sum_paired_eq increasing increasing', sum_paired_eq increasing increasing']
  exact sum_le_sum fun kind _ => Nat.sub_le _ _

theorem sum_count_eq_length {kinds : List String} (counted : a.CountsOf kinds) {all : Finset String}
    (included : ∀ kind ∈ kinds, kind ∈ all) : ∑ kind ∈ all, a.count kind = kinds.length := by
  have counts := Multiset.sum_count_eq_card (m := (kinds : Multiset String)) included
  simpa only [counted.exact_count, Multiset.coe_count, Multiset.coe_card] using counts

variable {kinds kinds' : List String}

theorem totals_eq_sums (counted : a.CountsOf kinds) (counted' : b.CountsOf kinds') :
    ∑ kind ∈ (eitherKeys a b).toFinset, a.count kind = kinds.length ∧
      ∑ kind ∈ (eitherKeys a b).toFinset, b.count kind = kinds'.length := by
  constructor
  · apply sum_count_eq_length counted
    intro kind member
    exact List.mem_toFinset.2 (mem_either_keys.2 (Or.inl ((counted.mem_keys kind).2 member)))
  · apply sum_count_eq_length counted'
    intro kind member
    exact List.mem_toFinset.2 (mem_either_keys.2 (Or.inr ((counted'.mem_keys kind).2 member)))

/-- What the distance of two histograms counts: the differences, and twice the greater counts are
the totals and the differences together. -/
theorem distance_ratio_counts (counted : a.CountsOf kinds) (counted' : b.CountsOf kinds') :
    (distanceRatio a b).part =
        ∑ kind ∈ (eitherKeys a b).toFinset, difference (a.count kind) (b.count kind) ∧
      2 * (distanceRatio a b).whole =
        kinds.length + kinds'.length + (distanceRatio a b).part := by
  have part : (distanceRatio a b).part =
      ∑ kind ∈ (eitherKeys a b).toFinset, difference (a.count kind) (b.count kind) := by
    rw [distanceRatio]
    dsimp only
    rw [sum_paired_eq counted.increasing counted'.increasing]
    exact sum_congr rfl fun kind _ => max_sub_min_eq_difference _ _
  obtain ⟨own, other⟩ := totals_eq_sums counted counted'
  refine ⟨part, ?_⟩
  rw [part, ← own, ← other, ← Finset.sum_add_distrib, ← Finset.sum_add_distrib, distanceRatio]
  dsimp only
  rw [sum_paired_eq counted.increasing counted'.increasing, Finset.mul_sum]
  exact sum_congr rfl fun kind _ => two_mul_max _ _

end Histogram
end Resemblance
