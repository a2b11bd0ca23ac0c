import Mathlib
import Resemblance.Proofs.HistogramMetric

/-!
The cosine of two histograms in exact numbers. Its dot product and squares are sums of natural
numbers over the kinds that either histogram mentions, and satisfy the inequality of Cauchy and
Schwarz: the squares of one, times what is missing there, are a sum of squares again. So the cosine
is never held back by its bounds; it is one exactly for proportional histograms, and zero exactly
where no kind is counted on both sides.
-/

namespace Resemblance

section Products

variable {ι : Type} (all : Finset ι) (f g : ι → Nat)

/-- What the product of the squares exceeds the square of the products by, times the squares of one
side, is the sum of the squares by which the two sides fail to be proportional. -/
theorem squares_of_disproportion :
    ((∑ i ∈ all, g i ^ 2 : Nat) : ℤ) *
        ((∑ i ∈ all, f i ^ 2 : Nat) * (∑ i ∈ all, g i ^ 2 : Nat) -
          (∑ i ∈ all, f i * g i : Nat) ^ 2) =
      ∑ i ∈ all,
      (((∑ j ∈ all, g j ^ 2 : Nat) : ℤ) * f i - (∑ j ∈ all, f j * g j : Nat) * g i) ^ 2 := by
  set products := ((∑ i ∈ all, f i * g i : Nat) : ℤ) with products_eq
  set own := ((∑ i ∈ all, f i ^ 2 : Nat) : ℤ) with own_eq
  set other := ((∑ i ∈ all, g i ^ 2 : Nat) : ℤ) with other_eq
  push_cast at products_eq own_eq other_eq
  calc other * (own * other - products ^ 2)
      = other ^ 2 * own - 2 * other * products * products + products ^ 2 * other := by ring
    _ = other ^ 2 * ∑ i ∈ all, (f i : ℤ) ^ 2 - 2 * other * products * ∑ i ∈ all, (f i : ℤ) * g i +
          products ^ 2 * ∑ i ∈ all, (g i : ℤ) ^ 2 := by rw [← products_eq, ← own_eq, ← other_eq]
    _ = ∑ i ∈ all, (other * f i - products * g i) ^ 2 := by
        rw [Finset.mul_sum, Finset.mul_sum, Finset.mul_sum, ← Finset.sum_sub_distrib,
          ← Finset.sum_add_distrib]
        exact Finset.sum_congr rfl fun i _ => by ring

variable {all f g}

/-- The inequality of Cauchy and Schwarz is an equation for proportional counts only. -/
theorem square_of_products_eq_iff (some : 0 < ∑ i ∈ all, g i ^ 2) (some' : 0 < ∑ i ∈ all, f i ^ 2) :
    (∑ i ∈ all, f i * g i) ^ 2 = (∑ i ∈ all, f i ^ 2) * ∑ i ∈ all, g i ^ 2 ↔
      ∃ p q : Nat, 0 < p ∧ 0 < q ∧ ∀ i ∈ all, p * f i = q * g i := by
  constructor
  · intro same
    have nothing : ∑ i ∈ all,
        (((∑ j ∈ all, g j ^ 2 : Nat) : ℤ) * f i - (∑ j ∈ all, f j * g j : Nat) * g i) ^ 2 = 0 := by
      have whole : ((∑ i ∈ all, f i ^ 2 : Nat) : ℤ) * (∑ i ∈ all, g i ^ 2 : Nat) =
          (∑ i ∈ all, f i * g i : Nat) ^ 2 := by exact_mod_cast same.symm
      rw [← squares_of_disproportion, whole, sub_self, mul_zero]
    have products : 0 < ∑ i ∈ all, f i * g i :=
      Nat.pos_of_ne_zero fun none => (Nat.mul_pos some' some).ne (by rw [← same, none]; rfl)
    refine ⟨∑ i ∈ all, g i ^ 2, ∑ i ∈ all, f i * g i, some, products, fun i member => ?_⟩
    have term := (Finset.sum_eq_zero_iff_of_nonneg fun i _ => sq_nonneg _).1 nothing i member
    exact_mod_cast sub_eq_zero.1 (pow_eq_zero_iff two_ne_zero |>.1 term)
  · rintro ⟨p, q, positive, positive', same⟩
    have scaled : p * ∑ i ∈ all, f i * g i = q * ∑ i ∈ all, g i ^ 2 := by
      rw [Finset.mul_sum, Finset.mul_sum]
      exact Finset.sum_congr rfl fun i member => by rw [← mul_assoc, same i member, mul_assoc, sq]
    have scaled' : p * ∑ i ∈ all, f i ^ 2 = q * ∑ i ∈ all, f i * g i := by
      rw [Finset.mul_sum, Finset.mul_sum]
      exact Finset.sum_congr rfl fun i member => by
        rw [sq, ← mul_assoc, same i member, mul_assoc, mul_comm (g i)]
    apply Nat.eq_of_mul_eq_mul_left (Nat.mul_pos positive positive')
    calc p * q * (∑ i ∈ all, f i * g i) ^ 2
        = (p * ∑ i ∈ all, f i * g i) * (q * ∑ i ∈ all, f i * g i) := by ring
      _ = (q * ∑ i ∈ all, g i ^ 2) * (p * ∑ i ∈ all, f i ^ 2) := by rw [scaled, scaled']
      _ = p * q * ((∑ i ∈ all, f i ^ 2) * ∑ i ∈ all, g i ^ 2) := by ring

end Products

namespace Histogram

variable {a b : Histogram}

def dot (a b : Histogram) : Nat :=
  sumOf ((common a b).map fun pair => pair.1 * pair.2)

def squares (histogram : Histogram) : Nat :=
  sumOf (histogram.values.map fun n => n * n)

theorem dot_eq_sum (increasing : Increasing a.counts) :
    dot a b = ∑ kind ∈ kinds a b, a.count kind * b.count kind := by
  have shared : (commonKeys a b).toFinset ⊆ kinds a b := by
    intro kind member
    rw [commonKeys, List.mem_toFinset, List.mem_filter] at member
    exact Finset.mem_union_left _ (List.mem_toFinset.2 member.1)
  have nothing (kind : String) (alone : kind ∉ (commonKeys a b).toFinset) :
      a.count kind * b.count kind = 0 := by
    rw [Nat.mul_eq_zero]
    by_contra both
    rw [not_or] at both
    apply alone
    rw [commonKeys, List.mem_toFinset, List.mem_filter, decide_eq_true_eq]
    exact ⟨mem_keys_of_count both.1, mem_keys_of_count both.2⟩
  have once : (commonKeys a b).Nodup := increasing.nodup_keys.filter _
  rw [dot, common_eq increasing, sum_of_eq_sum, List.map_map,
    ← Finset.sum_subset shared fun kind _ => nothing kind, List.sum_toFinset _ once]
  rfl

theorem squares_eq_sum (increasing : Increasing a.counts) {all : Finset String}
    (included : a.keys.toFinset ⊆ all) : squares a = ∑ kind ∈ all, a.count kind ^ 2 := by
  simp only [sq]
  exact sum_values_eq increasing included (fun n => n * n) rfl

theorem squares_pos (increasing : Increasing a.counts) (some : ∃ kind, 0 < a.count kind) :
    0 < squares a := by
  obtain ⟨kind, positive⟩ := some
  rw [squares_eq_sum increasing (Finset.Subset.refl _)]
  have member : kind ∈ a.keys.toFinset := List.mem_toFinset.2 (mem_keys_of_count positive.ne')
  exact Finset.sum_pos' (fun _ _ => Nat.zero_le _) ⟨kind, member, pow_pos positive 2⟩

theorem fold_real_eq_sum {ι : Type} (xs : List ι) (f : ι → Nat) (term : ι → ℝ)
    (same : ∀ x, term x = f x) :
    (xs.map term).foldl (· + ·) 0 = (sumOf (xs.map f) : ℝ) := by
  rw [sum_of_eq_sum, ← List.sum_eq_foldl, Nat.cast_list_sum, List.map_map]
  congr 1
  exact List.map_congr_left fun x _ => same x

theorem norm_in_reals (histogram : Histogram) :
    histogram.normIn (0 : ℝ) = √(squares histogram) := by
  have sum := fold_real_eq_sum histogram.values (fun n => n * n)
    (fun n => Scalar.ofNat n * Scalar.ofNat n) fun n => (Nat.cast_mul n n).symm
  rw [normIn]
  exact congrArg Real.sqrt sum

theorem dot_in_reals (a b : Histogram) :
    ((common a b).map fun pair => (Scalar.ofNat pair.1 * Scalar.ofNat pair.2 : ℝ)).foldl (· + ·)
    (0 : ℝ) =
      (dot a b : ℝ) :=
  fold_real_eq_sum (common a b) (fun pair => pair.1 * pair.2) _ fun pair =>
    (Nat.cast_mul pair.1 pair.2).symm

/-- The inequality of Cauchy and Schwarz for two histograms. -/
theorem dot_sq_le (increasing : Increasing a.counts) (increasing' : Increasing b.counts) :
    dot a b ^ 2 ≤ squares a * squares b := by
  rw [dot_eq_sum increasing, squares_eq_sum increasing Finset.subset_union_left,
    squares_eq_sum increasing' Finset.subset_union_right]
  exact Finset.sum_mul_sq_le_sq_mul_sq (kinds a b) a.count b.count

theorem dot_sq_eq_iff (increasing : Increasing a.counts) (increasing' : Increasing b.counts)
    (some : 0 < squares a) (some' : 0 < squares b) :
    dot a b ^ 2 = squares a * squares b ↔
      ∃ p q : Nat, 0 < p ∧ 0 < q ∧ ∀ kind, p * a.count kind = q * b.count kind := by
  have own : squares a = ∑ kind ∈ kinds a b, a.count kind ^ 2 :=
    squares_eq_sum increasing Finset.subset_union_left
  have other : squares b = ∑ kind ∈ kinds a b, b.count kind ^ 2 :=
    squares_eq_sum increasing' Finset.subset_union_right
  rw [own] at some
  rw [other] at some'
  rw [dot_eq_sum increasing, own, other, square_of_products_eq_iff some' some]
  refine exists₂_congr fun p q => and_congr_right fun _ => and_congr_right fun _ => ?_
  refine ⟨fun same kind => ?_, fun same kind _ => same kind⟩
  by_cases mentioned : kind ∈ kinds a b
  · exact same kind mentioned
  · rw [(counts_of_not_mem mentioned).1, (counts_of_not_mem mentioned).2,
      Nat.mul_zero, Nat.mul_zero]

theorem dot_eq_zero_iff (increasing : Increasing a.counts) :
    dot a b = 0 ↔ ∀ kind, a.count kind = 0 ∨ b.count kind = 0 := by
  rw [dot_eq_sum increasing, Finset.sum_eq_zero_iff]
  simp only [Nat.mul_eq_zero]
  refine ⟨fun apart kind => ?_, fun apart kind _ => apart kind⟩
  by_cases mentioned : kind ∈ kinds a b
  · exact apart kind mentioned
  · exact .inl (counts_of_not_mem mentioned).1

/-- The exact cosine, before it is held within bounds. -/
noncomputable def angle (a b : Histogram) : ℝ :=
  dot a b / (√(squares a) * √(squares b))

theorem angle_nonneg (a b : Histogram) : 0 ≤ angle a b :=
  div_nonneg (Nat.cast_nonneg _) (mul_nonneg (Real.sqrt_nonneg _) (Real.sqrt_nonneg _))

theorem norms_eq (a b : Histogram) :
    √(squares a) * √(squares b) = √((squares a * squares b : Nat) : ℝ) := by
  rw [Nat.cast_mul, Real.sqrt_mul (Nat.cast_nonneg _)]

theorem angle_le_one (increasing : Increasing a.counts) (increasing' : Increasing b.counts) :
    angle a b ≤ 1 := by
  have bounded : ((dot a b : Nat) : ℝ) ^ 2 ≤ (squares a * squares b : Nat) := by
    exact_mod_cast dot_sq_le increasing increasing'
  rw [angle, norms_eq]
  exact div_le_one_of_le₀ (Real.le_sqrt_of_sq_le bounded) (Real.sqrt_nonneg _)

theorem angle_eq_one_iff (some : 0 < squares a) (some' : 0 < squares b) :
    angle a b = 1 ↔ dot a b ^ 2 = squares a * squares b := by
  have positive : (0 : ℝ) < (squares a * squares b : Nat) := Nat.cast_pos.2 (Nat.mul_pos some some')
  rw [angle, norms_eq, div_eq_one_iff_eq (Real.sqrt_pos.2 positive).ne', eq_comm,
    Real.sqrt_eq_iff_eq_sq positive.le (Nat.cast_nonneg _), eq_comm]
  exact_mod_cast Iff.rfl

theorem angle_eq_zero_iff (some : 0 < squares a) (some' : 0 < squares b) : angle a b = 0 ↔
    dot a b = 0 := by
  have positive : (0 : ℝ) < (squares a * squares b : Nat) := Nat.cast_pos.2 (Nat.mul_pos some some')
  rw [angle, norms_eq, div_eq_zero_iff, or_iff_left (Real.sqrt_pos.2 positive).ne',
    Nat.cast_eq_zero]

theorem not_zero_of_pos {x : ℝ} (positive : 0 < x) : Scalar.isZero x = false := by
  have zero : (Scalar.zero : ℝ) = 0 := Nat.cast_zero
  have above : Scalar.le x Scalar.zero = false :=
    decide_eq_false (by rw [zero]; exact positive.not_ge)
  rw [Scalar.isZero, above, Bool.false_and]

/-- With positive counts on both sides, the cosine in exact numbers is the angle, and the bounds
take nothing from it. -/
theorem cosine_in_reals (increasing : Increasing a.counts) (increasing' : Increasing b.counts)
    (some : 0 < squares a) (some' : 0 < squares b) : cosineIn (0 : ℝ) a b = angle a b := by
  have filled : (a.counts.isEmpty && b.counts.isEmpty) = false := by
    rw [Bool.and_eq_false_iff, List.isEmpty_eq_false_iff]
    refine .inl fun empty => some.ne' ?_
    rw [squares, values, empty]
    rfl
  have long := not_zero_of_pos (Real.sqrt_pos.2 (Nat.cast_pos.2 some))
  have long' := not_zero_of_pos (Real.sqrt_pos.2 (Nat.cast_pos.2 some'))
  rw [cosineIn, filled, norm_in_reals, norm_in_reals, long, long', dot_in_reals]
  exact clamp_real (angle_nonneg a b) (angle_le_one increasing increasing')

end Histogram

open Histogram (Increasing angle cosine cosineIn dot kinds squares)

/-- The cosine of two histograms with positive counts, in exact numbers. What it is made of are sums
of natural numbers over the kinds of either, for which the inequality of Cauchy and Schwarz holds.
So the quotient is in the unit interval before the bounds are applied; it is one for proportional
histograms only, and zero exactly where no kind is counted on both sides. -/
theorem histogram_cosine_is_exact_angle (a b : Histogram) (increasing : Increasing a.counts)
    (increasing' : Increasing b.counts) (some : ∃ kind, 0 < a.count kind)
    (some' : ∃ kind, 0 < b.count kind) :
    cosineIn (-0.0 : Float) a b = cosine a b ∧
    (dot a b = ∑ kind ∈ kinds a b, a.count kind * b.count kind ∧
      squares a = ∑ kind ∈ kinds a b, a.count kind ^ 2 ∧
      squares b = ∑ kind ∈ kinds a b, b.count kind ^ 2) ∧
    dot a b ^ 2 ≤ squares a * squares b ∧
    (cosineIn (0 : ℝ) a b = dot a b / (√(squares a) * √(squares b)) ∧
      0 ≤ cosineIn (0 : ℝ) a b ∧ cosineIn (0 : ℝ) a b ≤ 1) ∧
    (cosineIn (0 : ℝ) a b = 1 ↔
      ∃ p q : Nat, 0 < p ∧ 0 < q ∧ ∀ kind, p * a.count kind = q * b.count kind) ∧
    ((∀ kind, a.count kind = b.count kind) → cosineIn (0 : ℝ) a b = 1) ∧
    (cosineIn (0 : ℝ) a b = 0 ↔ ∀ kind, a.count kind = 0 ∨ b.count kind = 0) := by
  have positive := Histogram.squares_pos increasing some
  have positive' := Histogram.squares_pos increasing' some'
  have exact := Histogram.cosine_in_reals increasing increasing' positive positive'
  have one : cosineIn (0 : ℝ) a b = 1 ↔
      ∃ p q : Nat, 0 < p ∧ 0 < q ∧ ∀ kind, p * a.count kind = q * b.count kind := by
    rw [exact, Histogram.angle_eq_one_iff positive positive',
      Histogram.dot_sq_eq_iff increasing increasing' positive positive']
  refine ⟨Histogram.cosine_in_doubles a b, ⟨Histogram.dot_eq_sum increasing, ?_, ?_⟩,
    Histogram.dot_sq_le increasing increasing', ⟨exact, ?_, ?_⟩, one, ?_, ?_⟩
  · exact Histogram.squares_eq_sum increasing Finset.subset_union_left
  · exact Histogram.squares_eq_sum increasing' Finset.subset_union_right
  · exact exact ▸ Histogram.angle_nonneg a b
  · exact exact ▸ Histogram.angle_le_one increasing increasing'
  · intro same
    exact one.2 ⟨1, 1, Nat.one_pos, Nat.one_pos, fun kind => by rw [same kind]⟩
  · rw [exact, Histogram.angle_eq_zero_iff positive positive', Histogram.dot_eq_zero_iff increasing]

/-- Two histograms that are proportional but not equal, and a third that shares no kind with the
first. -/
theorem doubled_histogram_has_cosine_one :
    let a : Histogram := ⟨[("a", 2), ("b", 1)]⟩
    let b : Histogram := ⟨[("a", 4), ("b", 2), ("c", 0)]⟩
    let c : Histogram := ⟨[("b", 0), ("c", 1)]⟩
    ((Increasing a.counts ∧ Increasing b.counts ∧ Increasing c.counts) ∧
      (∃ kind, 0 < a.count kind) ∧ (∃ kind, 0 < b.count kind) ∧ ∃ kind, 0 < c.count kind) ∧
      dot a b ^ 2 = squares a * squares b ∧ cosineIn (0 : ℝ) a b = 1 ∧
      cosineIn (0 : ℝ) a c = 0 := by
  intro a b c
  have first : Increasing a.counts := by unfold Increasing; decide
  have second : Increasing b.counts := by unfold Increasing; decide
  have third : Increasing c.counts := by unfold Increasing; decide
  have some : ∃ kind, 0 < a.count kind := ⟨"a", by decide⟩
  have some' : ∃ kind, 0 < b.count kind := ⟨"a", by decide⟩
  have some'' : ∃ kind, 0 < c.count kind := ⟨"c", by decide⟩
  obtain ⟨-, -, -, -, one, -, -⟩ := histogram_cosine_is_exact_angle a b first second some some'
  obtain ⟨-, -, -, -, -, -, zero⟩ := histogram_cosine_is_exact_angle a c first third some some''
  refine ⟨⟨⟨first, second, third⟩, some, some', some''⟩, by decide,
    one.2 ⟨2, 1, by decide, by decide, ?_⟩, zero.2 ?_⟩
  · intro kind
    by_cases own : kind = "a"
    · subst own
      decide
    · by_cases other : kind = "b"
      · subst other
        decide
      · have absent : a.count kind = 0 :=
          Histogram.count_of_not_mem (by simp [Histogram.keys, a, own, other])
        have absent' : b.count kind = 0 := by
          by_cases last : kind = "c"
          · subst last
            decide
          · exact Histogram.count_of_not_mem (by simp [Histogram.keys, b, own, other, last])
        rw [absent, absent']
  · intro kind
    by_cases last : kind = "c"
    · subst last
      exact .inl (by decide)
    · by_cases other : kind = "b"
      · subst other
        exact .inr (by decide)
      · exact .inr (Histogram.count_of_not_mem (by simp [Histogram.keys, c, last, other]))

end Resemblance
