import Mathlib
import Resemblance.Proofs.RelativeDistance
import Resemblance.Vocabulary

/-!
The overlap of two finite sets in exact numbers: how many members they share over how many there are
in either. The overlap of vocabularies and that of subtrees are both this one, although only the
latter treats a single empty set by itself. It is one minus the relative distance of the sets'
indicators, so that it agrees with the distance of histograms, and what it leaves of one is a
metric.
-/

namespace Resemblance

def indicator {α : Type} [DecidableEq α] (set : Finset α) (x : α) : Nat :=
  if x ∈ set then 1 else 0

namespace Overlap

variable {α : Type} [DecidableEq α] {A B C all : Finset α}

/-- The overlap of two sets: the members of both among the members of either, and one for two empty
sets. -/
def ofSets (A B : Finset α) : ℚ :=
  if A ∪ B = ∅ then 1 else ((A ∩ B).card : ℚ) / (A ∪ B).card

theorem sum_indicator (within : A ⊆ all) : ∑ x ∈ all, indicator A x = A.card := by
  simp only [indicator]
  rw [Finset.sum_ite_mem, Finset.inter_eq_right.2 within, Finset.card_eq_sum_ones]

theorem max_indicator (A B : Finset α) (x : α) :
    max (indicator A x) (indicator B x) = indicator (A ∪ B) x := by
  simp only [indicator, Finset.mem_union]
  by_cases own : x ∈ A
  · by_cases other : x ∈ B <;> simp [own, other]
  · by_cases other : x ∈ B <;> simp [own, other]

theorem min_indicator (A B : Finset α) (x : α) :
    min (indicator A x) (indicator B x) = indicator (A ∩ B) x := by
  simp only [indicator, Finset.mem_inter]
  by_cases own : x ∈ A
  · by_cases other : x ∈ B <;> simp [own, other]
  · by_cases other : x ∈ B <;> simp [own, other]

/-- What the overlap leaves of one is the relative distance of the indicators, over any members that
include those of both. -/
theorem one_sub_of_sets (within : A ∪ B ⊆ all) :
    1 - ofSets A B = relativeDistance all (indicator A) (indicator B) := by
  have greater : ∑ x ∈ all, max (indicator A x) (indicator B x) = (A ∪ B).card := by
    simp only [max_indicator]
    exact sum_indicator within
  have lesser : ∑ x ∈ all, min (indicator A x) (indicator B x) = (A ∩ B).card := by
    simp only [min_indicator]
    exact sum_indicator ((Finset.inter_subset_left.trans Finset.subset_union_left).trans within)
  by_cases empty : A ∪ B = ∅
  · rw [relativeDistance, greater, ofSets, if_pos empty, empty, Finset.card_empty,
      Nat.cast_zero, div_zero, sub_self]
  · have some : 0 < ∑ x ∈ all, max (indicator A x) (indicator B x) := by
      rw [greater]
      exact Finset.card_pos.2 (Finset.nonempty_iff_ne_empty.2 empty)
    rw [relative_distance_eq some, greater, lesser, ofSets, if_neg empty]

theorem of_sets_comm (A B : Finset α) : ofSets A B = ofSets B A := by
  rw [ofSets, ofSets, Finset.union_comm, Finset.inter_comm]

theorem of_sets_within (A B : Finset α) : 0 ≤ ofSets A B ∧ ofSets A B ≤ 1 := by
  have distance := one_sub_of_sets (Finset.Subset.refl (A ∪ B))
  have low := relative_distance_nonneg (A ∪ B) (indicator A) (indicator B)
  have high := relative_distance_le_one (A ∪ B) (indicator A) (indicator B)
  constructor
  · linarith
  · linarith

theorem of_sets_eq_one_iff : ofSets A B = 1 ↔ A = B := by
  have full : ofSets A B = 1 ↔ 1 - ofSets A B = 0 := by
    rw [sub_eq_zero]
    exact eq_comm
  rw [full, one_sub_of_sets (Finset.Subset.refl (A ∪ B)), relative_distance_eq_zero_iff]
  constructor
  · intro same
    ext x
    by_cases member : x ∈ A ∪ B
    · have equal := same x member
      simp only [indicator] at equal
      by_cases own : x ∈ A
      · by_cases other : x ∈ B <;> simp_all
      · by_cases other : x ∈ B <;> simp_all
    · rw [Finset.mem_union, not_or] at member
      exact iff_of_false member.1 member.2
  · rintro rfl x _
    rfl

theorem of_sets_eq_zero_iff : ofSets A B = 0 ↔ Disjoint A B ∧ (A ≠ ∅ ∨ B ≠ ∅) := by
  have nothing : ofSets A B = 0 ↔ 1 - ofSets A B = 1 := by
    rw [sub_eq_self]
  have unshared : (∀ x ∈ A ∪ B, indicator A x = 0 ∨ indicator B x = 0) ↔ Disjoint A B := by
    rw [Finset.disjoint_left]
    simp only [indicator, Finset.mem_union]
    constructor
    · intro apart x own other
      have none := apart x (.inl own)
      simp [own, other] at none
    · intro apart x _
      by_cases own : x ∈ A
      · exact .inr (if_neg (apart own))
      · exact .inl (if_neg own)
  have counted : (∃ x ∈ A ∪ B, indicator A x ≠ 0 ∨ indicator B x ≠ 0) ↔ A ≠ ∅ ∨ B ≠ ∅ := by
    rw [← Finset.nonempty_iff_ne_empty, ← Finset.nonempty_iff_ne_empty, ← Finset.union_nonempty]
    apply exists_congr
    intro x
    simp [indicator, Finset.mem_union]
  rw [nothing, one_sub_of_sets (Finset.Subset.refl (A ∪ B)), relative_distance_eq_one_iff, unshared,
    counted, and_comm]

theorem of_sets_triangle (A B C : Finset α) :
    1 - ofSets A C ≤ (1 - ofSets A B) + (1 - ofSets B C) := by
  have outer : A ∪ C ⊆ A ∪ B ∪ C :=
    Finset.union_subset_union Finset.subset_union_left (Finset.Subset.refl C)
  have later : B ∪ C ⊆ A ∪ B ∪ C :=
    Finset.union_subset_union Finset.subset_union_right (Finset.Subset.refl C)
  rw [one_sub_of_sets outer, one_sub_of_sets Finset.subset_union_left, one_sub_of_sets later]
  exact relative_distance_triangle _ _ _ _

theorem of_sets_image {β : Type} [DecidableEq β] {name : α → β}
    (injective : Function.Injective name)
    (A B : Finset α) : ofSets (A.image name) (B.image name) = ofSets A B := by
  rw [ofSets, ofSets, ← Finset.image_union, ← Finset.image_inter A B injective,
    Finset.card_image_of_injective _ injective, Finset.card_image_of_injective _ injective]
  simp only [Finset.image_eq_empty]

end Overlap

section Lists

open Overlap (ofSets shared ratio)

variable {α : Type} [BEq α] [LawfulBEq α] [DecidableEq α] {a b : List α}

theorem Overlap.shared_eq_card (once : a.Nodup) : shared a b = (a.toFinset ∩ b.toFinset).card := by
  have listed : a.toFinset ∩ b.toFinset = (a.filter b.contains).toFinset := by
    ext x
    simp
  rw [listed, List.toFinset_card_of_nodup (once.filter _), shared]

theorem Overlap.ratio_value_eq (once : a.Nodup) (once' : b.Nodup) :
    (ratio a b).value = ofSets a.toFinset b.toFinset := by
  have shared_eq := shared_eq_card (b := b) once
  have whole : a.length + b.length - shared a b = (a.toFinset ∪ b.toFinset).card := by
    have parts := Finset.card_union_add_card_inter a.toFinset b.toFinset
    rw [List.toFinset_card_of_nodup once, List.toFinset_card_of_nodup once'] at parts
    omega
  have empty_iff : (a.isEmpty && b.isEmpty) = true ↔ a.toFinset ∪ b.toFinset = ∅ := by
    simp [Finset.union_eq_empty]
  rw [ratio_eq, ofSets]
  by_cases empty : (a.isEmpty && b.isEmpty) = true
  · rw [if_pos empty, if_pos (empty_iff.1 empty), Ratio.value, Ratio.one, Nat.cast_one, div_one]
  · rw [if_neg empty, if_neg fun none => empty (empty_iff.2 none), Ratio.value]
    dsimp only
    rw [whole, shared_eq]

end Lists

namespace Histogram

/-- The histogram counts every member of a set once, and no other kind. -/
structure Indicates (histogram : Histogram) (set : Finset String) : Prop where
  increasing : Increasing histogram.counts
  count_eq : ∀ kind, histogram.count kind = indicator set kind

theorem indicates_of_list {kinds : List String} (once : kinds.Nodup) :
    (kinds.foldl Histogram.add .empty).Indicates kinds.toFinset := by
  have counted := counts_of_empty.add_all kinds
  rw [List.nil_append] at counted
  refine ⟨counted.increasing, fun kind => ?_⟩
  rw [counted.exact_count, indicator, once.count]
  simp only [List.mem_toFinset]

theorem Indicates.distance_eq {a b : Histogram} {A B : Finset String} (indicates : a.Indicates A)
    (indicates' : b.Indicates B) : (distanceRatio a b).value = 1 - Overlap.ofSets A B := by
  have covered : ∀ kind, a.count kind ≠ 0 ∨ b.count kind ≠ 0 → kind ∈ A ∪ B := by
    intro kind some
    rw [indicates.count_eq, indicates'.count_eq] at some
    simpa [indicator, Finset.mem_union] using some
  rw [distance_value_over indicates.increasing indicates'.increasing covered,
    Overlap.one_sub_of_sets (Finset.Subset.refl (A ∪ B)), funext indicates.count_eq,
    funext indicates'.count_eq]

end Histogram

open Overlap (ofSets)

/-- The overlap of vocabularies and that of subtrees are the same function of the sets: the members
of both among the members of either. It does not depend on the order of the sets and lies in the
unit interval; it is one for equal sets only, and zero for sets that share nothing unless both are
empty. It is one minus the distance of the histograms that count each member once, however the
members are named, and one minus it satisfies the triangle inequality. -/
theorem overlaps_are_one_function_of_sets {α : Type} [BEq α] [LawfulBEq α] [DecidableEq α] :
    (∀ a b : List String, a.Nodup → b.Nodup →
      (Vocabulary.overlap a b).value = ofSets a.toFinset b.toFinset) ∧
    (∀ a b : List α, a.Nodup → b.Nodup →
      (Overlap.ratio a b).value = ofSets a.toFinset b.toFinset) ∧
    (∀ A B : Finset α,
      ofSets A B = ofSets B A ∧ 0 ≤ ofSets A B ∧ ofSets A B ≤ 1 ∧
        (ofSets A B = 1 ↔ A = B) ∧
        (ofSets A B = 0 ↔ Disjoint A B ∧ (A ≠ ∅ ∨ B ≠ ∅)) ∧
        ∀ (name : α → String) (a b : Histogram), Function.Injective name →
          a.Indicates (A.image name) → b.Indicates (B.image name) →
            ofSets A B = 1 - (Histogram.distanceRatio a b).value) ∧
    ∀ A B C : Finset α, 1 - ofSets A C ≤ (1 - ofSets A B) + (1 - ofSets B C) := by
  refine ⟨?_, ?_, ?_, Overlap.of_sets_triangle⟩
  · intro a b once once'
    rw [Vocabulary.overlap_eq_ratio]
    exact Overlap.ratio_value_eq once once'
  · exact fun a b once once' => Overlap.ratio_value_eq once once'
  · intro A B
    obtain ⟨low, high⟩ := Overlap.of_sets_within A B
    refine ⟨Overlap.of_sets_comm A B, low, high, Overlap.of_sets_eq_one_iff,
      Overlap.of_sets_eq_zero_iff, ?_⟩
    intro name a b injective indicates indicates'
    rw [indicates.distance_eq indicates', Overlap.of_sets_image injective, sub_sub_cancel]

/-- Three texts, of which two are in the other set as well, and their histograms; and an empty
set. -/
theorem two_shared_of_four :
    let a := ["x", "y", "z"]
    let b := ["z", "w", "x"]
    (Vocabulary.overlap a b).value = 1 / 2 ∧ (Overlap.ratio a b).value = 1 / 2 ∧
      (Histogram.distanceRatio (a.foldl Histogram.add .empty)
        (b.foldl Histogram.add .empty)).value = 1 / 2 ∧
      (Vocabulary.overlap a []).value = (Overlap.ratio a []).value := by
  intro a b
  obtain ⟨texts, lists, sets, -⟩ := overlaps_are_one_function_of_sets (α := String)
  have half : ofSets a.toFinset b.toFinset = 1 / 2 := by
    rw [ofSets, if_neg (by decide)]
    have shared : (a.toFinset ∩ b.toFinset).card = 2 := by decide
    have whole : (a.toFinset ∪ b.toFinset).card = 4 := by decide
    rw [shared, whole]
    norm_num
  obtain ⟨-, -, -, -, -, distance⟩ := sets a.toFinset b.toFinset
  have indicated : (a.foldl Histogram.add .empty).Indicates (a.toFinset.image id) := by
    rw [Finset.image_id]
    exact Histogram.indicates_of_list (by decide)
  have indicated' : (b.foldl Histogram.add .empty).Indicates (b.toFinset.image id) := by
    rw [Finset.image_id]
    exact Histogram.indicates_of_list (by decide)
  have left := distance id _ _ Function.injective_id indicated indicated'
  rw [half] at left
  refine ⟨(texts a b (by decide) (by decide)).trans half,
    (lists a b (by decide) (by decide)).trans half, by linarith, ?_⟩
  rw [texts a [] (by decide) (by decide), lists a [] (by decide) (by decide)]

end Resemblance
