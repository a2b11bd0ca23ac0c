import Mathlib
import Resemblance.Proofs.HistogramDistance

/-!
The relative distance of two assignments of counts: their summed differences over the summed greater
counts. It lies in the unit interval, is zero for equal counts and one where no two counts are
positive together, and satisfies the triangle inequality. The distance of two histograms is the
relative distance of their counts.
-/

namespace Resemblance

section Counts

variable {ι : Type} {all : Finset ι} {f g h : ι → Nat}

theorem difference_add_min (m n : Nat) : difference m n + min m n = max m n := by
  rw [difference]
  omega

theorem difference_le_max (m n : Nat) : difference m n ≤ max m n := by
  rw [difference]
  omega

theorem difference_eq_zero_iff {m n : Nat} : difference m n = 0 ↔ m = n := by
  rw [difference]
  omega

theorem difference_eq_max_iff {m n : Nat} : difference m n = max m n ↔ m = 0 ∨ n = 0 := by
  rw [difference]
  omega

/-- By way of a third count, no less is passed than the difference and what the third stands out. -/
theorem difference_triangle (m n k : Nat) :
    difference m k + max n (max m k) ≤ difference m n + difference n k + max m k := by
  rw [difference, difference, difference]
  omega

/-- The summed differences of some counts over the summed greater ones; nothing if all counts are
zero. -/
def relativeDistance (all : Finset ι) (f g : ι → Nat) : ℚ :=
  ((∑ i ∈ all, difference (f i) (g i) : Nat) : ℚ) / (∑ i ∈ all, max (f i) (g i) : Nat)

theorem sum_difference_le (all : Finset ι) (f g : ι → Nat) :
    ∑ i ∈ all, difference (f i) (g i) ≤ ∑ i ∈ all, max (f i) (g i) :=
  Finset.sum_le_sum fun i _ => difference_le_max (f i) (g i)

theorem relative_distance_nonneg (all : Finset ι) (f g : ι → Nat) : 0 ≤ relativeDistance all f g :=
  div_nonneg (Nat.cast_nonneg _) (Nat.cast_nonneg _)

theorem relative_distance_le_one (all : Finset ι) (f g : ι → Nat) :
    relativeDistance all f g ≤ 1 := by
  apply div_le_one_of_le₀ _ (Nat.cast_nonneg _)
  exact Nat.cast_le.2 (sum_difference_le all f g)

theorem relative_distance_eq (some : 0 < ∑ i ∈ all, max (f i) (g i)) :
    relativeDistance all f g =
      1 - ((∑ i ∈ all, min (f i) (g i) : Nat) : ℚ) / (∑ i ∈ all, max (f i) (g i) : Nat) := by
  have parts : ∑ i ∈ all, difference (f i) (g i) + ∑ i ∈ all, min (f i) (g i) =
      ∑ i ∈ all, max (f i) (g i) := by
    rw [← Finset.sum_add_distrib]
    exact Finset.sum_congr rfl fun i _ => difference_add_min (f i) (g i)
  have whole : ((∑ i ∈ all, max (f i) (g i) : Nat) : ℚ) ≠ 0 := Nat.cast_ne_zero.2 some.ne'
  rw [eq_sub_iff_add_eq, relativeDistance, ← add_div, ← Nat.cast_add, parts, div_self whole]

theorem relative_distance_wider {more : Finset ι} (wider : all ⊆ more)
    (nothing : ∀ i ∈ more, i ∉ all → f i = 0 ∧ g i = 0) :
    relativeDistance more f g = relativeDistance all f g := by
  have differences : ∑ i ∈ all, difference (f i) (g i) = ∑ i ∈ more, difference (f i) (g i) := by
    apply Finset.sum_subset wider
    intro i member other
    rw [(nothing i member other).1, (nothing i member other).2]
    rfl
  have greater : ∑ i ∈ all, max (f i) (g i) = ∑ i ∈ more, max (f i) (g i) := by
    apply Finset.sum_subset wider
    intro i member other
    rw [(nothing i member other).1, (nothing i member other).2]
    rfl
  rw [relativeDistance, relativeDistance, differences, greater]

theorem relative_distance_eq_zero_iff : relativeDistance all f g = 0 ↔ ∀ i ∈ all, f i = g i := by
  have bounded := sum_difference_le all f g
  have nothing : relativeDistance all f g = 0 ↔ ∑ i ∈ all, difference (f i) (g i) = 0 := by
    rw [relativeDistance, div_eq_zero_iff, Nat.cast_eq_zero, Nat.cast_eq_zero]
    omega
  rw [nothing, Finset.sum_eq_zero_iff]
  exact forall₂_congr fun i _ => difference_eq_zero_iff

theorem relative_distance_eq_one_iff :
    relativeDistance all f g = 1 ↔
      (∃ i ∈ all, f i ≠ 0 ∨ g i ≠ 0) ∧ ∀ i ∈ all, f i = 0 ∨ g i = 0 := by
  have some : ∑ i ∈ all, max (f i) (g i) ≠ 0 ↔ ∃ i ∈ all, f i ≠ 0 ∨ g i ≠ 0 := by
    rw [Ne, Finset.sum_eq_zero_iff, not_forall₂]
    simp only [exists_prop]
    refine exists_congr fun i => and_congr_right fun _ => ?_
    omega
  have apart : ∑ i ∈ all, difference (f i) (g i) = ∑ i ∈ all, max (f i) (g i) ↔
      ∀ i ∈ all, f i = 0 ∨ g i = 0 := by
    rw [Finset.sum_eq_sum_iff_of_le fun i _ => difference_le_max (f i) (g i)]
    exact forall₂_congr fun i _ => difference_eq_max_iff
  rw [← some, ← apart]
  constructor
  · intro one
    have whole : ((∑ i ∈ all, max (f i) (g i) : Nat) : ℚ) ≠ 0 := by
      intro nothing
      rw [relativeDistance, nothing, div_zero] at one
      exact zero_ne_one one
    exact ⟨Nat.cast_ne_zero.1 whole, Nat.cast_injective ((div_eq_one_iff_eq whole).1 one)⟩
  · rintro ⟨whole, same⟩
    rw [relativeDistance, same]
    exact div_self (Nat.cast_ne_zero.2 whole)

theorem differences_div_le {whole : Nat} (greater : ∑ i ∈ all, max (f i) (g i) ≤ whole) :
    ((∑ i ∈ all, difference (f i) (g i) : Nat) : ℚ) / whole ≤ relativeDistance all f g := by
  have bounded := sum_difference_le all f g
  rcases Nat.eq_zero_or_pos (∑ i ∈ all, max (f i) (g i)) with nothing | some
  · have none : ∑ i ∈ all, difference (f i) (g i) = 0 := by omega
    rw [none, Nat.cast_zero, zero_div]
    exact relative_distance_nonneg all f g
  · apply div_le_div_of_nonneg_left (Nat.cast_nonneg _) (Nat.cast_pos.2 some)
    exact Nat.cast_le.2 greater

theorem ratio_le_of_added {part whole added : ℚ} (positive : 0 < whole) (bounded : part ≤ whole)
    (more : 0 ≤ added) : part / whole ≤ (part + added) / (whole + added) := by
  rw [div_le_div_iff₀ positive (add_pos_of_pos_of_nonneg positive more)]
  have scaled := mul_le_mul_of_nonneg_right bounded more
  linarith

/-- The relative distance satisfies the triangle inequality: all three are compared over the counts
of the greatest of the three assignments. -/
theorem relative_distance_triangle (all : Finset ι) (f g h : ι → Nat) :
    relativeDistance all f h ≤ relativeDistance all f g + relativeDistance all g h := by
  rcases Nat.eq_zero_or_pos (∑ i ∈ all, max (f i) (h i)) with nothing | some
  · rw [relativeDistance, nothing, Nat.cast_zero, div_zero]
    exact add_nonneg (relative_distance_nonneg all f g) (relative_distance_nonneg all g h)
  · set whole := ∑ i ∈ all, max (g i) (max (f i) (h i)) with whole_eq
    have first : ∑ i ∈ all, max (f i) (g i) ≤ whole := by
      apply Finset.sum_le_sum
      intro i _
      omega
    have second : ∑ i ∈ all, max (g i) (h i) ≤ whole := by
      apply Finset.sum_le_sum
      intro i _
      omega
    have own : ∑ i ∈ all, max (f i) (h i) ≤ whole :=
      Finset.sum_le_sum fun i _ => le_max_right (g i) (max (f i) (h i))
    have passed : ∑ i ∈ all, difference (f i) (h i) + whole ≤
        ∑ i ∈ all, difference (f i) (g i) + ∑ i ∈ all, difference (g i) (h i) +
          ∑ i ∈ all, max (f i) (h i) := by
      rw [whole_eq, ← Finset.sum_add_distrib, ← Finset.sum_add_distrib, ← Finset.sum_add_distrib]
      exact Finset.sum_le_sum fun i _ => difference_triangle (f i) (g i) (h i)
    have positive : (0 : ℚ) < whole := Nat.cast_pos.2 (some.trans_le own)
    have room : (0 : ℚ) ≤ whole - (∑ i ∈ all, max (f i) (h i) : Nat) :=
      sub_nonneg.2 (Nat.cast_le.2 own)
    have widened := ratio_le_of_added (Nat.cast_pos.2 some)
      (Nat.cast_le.2 (sum_difference_le all f h)) room
    calc relativeDistance all f h
        ≤ ((∑ i ∈ all, difference (f i) (h i) : Nat) +
            ((whole : ℚ) - (∑ i ∈ all, max (f i) (h i) : Nat))) /
              ((∑ i ∈ all, max (f i) (h i) : Nat) +
                ((whole : ℚ) - (∑ i ∈ all, max (f i) (h i) : Nat))) := widened
      _ ≤ ((∑ i ∈ all, difference (f i) (g i) : Nat) +
            (∑ i ∈ all, difference (g i) (h i) : Nat)) / whole := by
          rw [add_sub_cancel]
          apply div_le_div_of_nonneg_right _ positive.le
          have passed : ((∑ i ∈ all, difference (f i) (h i) : Nat) : ℚ) + whole ≤
              (∑ i ∈ all, difference (f i) (g i) : Nat) +
                (∑ i ∈ all, difference (g i) (h i) : Nat) + (∑ i ∈ all, max (f i) (h i) : Nat) := by
            exact_mod_cast passed
          linarith
      _ ≤ relativeDistance all f g + relativeDistance all g h := by
          rw [add_div]
          exact add_le_add (differences_div_le first) (differences_div_le second)

end Counts

namespace Histogram

variable {a b : Histogram}

/-- The distance of two histograms, before it is a double, is the relative distance of their
counts. -/
theorem distance_value_eq (increasing : Increasing a.counts) (increasing' : Increasing b.counts) :
    (distanceRatio a b).value = relativeDistance (eitherKeys a b).toFinset a.count b.count := by
  rw [Ratio.value, distanceRatio, relativeDistance]
  dsimp only
  rw [sum_paired_eq increasing increasing', sum_paired_eq increasing increasing']
  simp only [max_sub_min_eq_difference]

theorem distance_value_over (increasing : Increasing a.counts) (increasing' : Increasing b.counts)
    {all : Finset String} (covered : ∀ kind, a.count kind ≠ 0 ∨ b.count kind ≠ 0 → kind ∈ all) :
    (distanceRatio a b).value = relativeDistance all a.count b.count := by
  have nothing {kinds : Finset String} (kind : String) (other : kind ∉ kinds)
      (covered : a.count kind ≠ 0 ∨ b.count kind ≠ 0 → kind ∈ kinds) :
      a.count kind = 0 ∧ b.count kind = 0 := by
    by_contra some
    apply other
    apply covered
    omega
  have mentioned (kind : String) (some : a.count kind ≠ 0 ∨ b.count kind ≠ 0) :
      kind ∈ (eitherKeys a b).toFinset := by
    rw [List.mem_toFinset, mem_either_keys]
    exact some.imp (fun own => by_contra fun absent => own (count_of_not_mem absent))
      fun own => by_contra fun absent => own (count_of_not_mem absent)
  have wider : (eitherKeys a b).toFinset ⊆ (eitherKeys a b).toFinset ∪ all :=
    Finset.subset_union_left
  have wider' : all ⊆ (eitherKeys a b).toFinset ∪ all := Finset.subset_union_right
  rw [distance_value_eq increasing increasing',
    ← relative_distance_wider wider fun kind _ other => nothing kind other (mentioned kind),
    ← relative_distance_wider wider' fun kind _ other => nothing kind other (covered kind)]

end Histogram

end Resemblance
