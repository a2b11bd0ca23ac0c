import Mathlib
import Resemblance.Proofs.OwnScore
import Resemblance.Proofs.SharedGrams
import Resemblance.Proofs.SharedSubtrees
import Resemblance.Proofs.Tally

/-!
Which token lists have a perfect score. All grams of the candidate are matched exactly where the
reference holds each of them at least as often; with a candidate that is not shorter, this leaves
nothing over on either side. So a perfect score means equal grams of all lengths that are looked at,
and equal lists where these lengths reach up to the lists themselves.
-/

namespace Resemblance

namespace Gram

variable {n : Nat} {xs ys : List String}

theorem table_eq_iff : table n xs = table n ys ↔ (windows n xs).Perm (windows n ys) :=
  tally_eq_iff texts_le_total (fun _ _ _ => texts_le_trans) fun _ _ => texts_le_antisymm

theorem matched_eq_total_iff (n : Nat) (reference candidate : List String) :
    matched n reference candidate = total n candidate ↔
      (windows n candidate).Subperm (windows n reference) := by
  have bounded : ∀ gram ∈ (windows n candidate).eraseDups.toFinset,
      min ((windows n candidate).count gram) ((windows n reference).count gram) ≤
        min ((windows n candidate).count gram) ((windows n candidate).count gram) := by
    intro gram _
    rw [Nat.min_self]
    exact Nat.min_le_left _ _
  rw [← matched_self n candidate, matched, matched, sum_of_eq_sum, sum_of_eq_sum,
    ← List.sum_toFinset _ (nodup_erase_dups _), ← List.sum_toFinset _ (nodup_erase_dups _),
    Finset.sum_eq_sum_iff_of_le bounded, List.subperm_ext_iff]
  apply forall_congr'
  intro gram
  rw [List.mem_toFinset, List.mem_eraseDups, Nat.min_self, min_eq_left_iff]

/-- All grams of a candidate that is not shorter are matched exactly where the lists have the same
grams. -/
theorem matched_eq_total_iff_perm (positive : 0 < n) {reference candidate : List String}
    (same : reference.length = candidate.length) :
    matched n reference candidate = total n candidate ↔
      (windows n reference).Perm (windows n candidate) := by
  rw [matched_eq_total_iff]
  constructor
  · intro held
    refine (held.perm_of_length_le ?_).symm
    rw [windows_length positive, windows_length positive, same]
  · exact fun perm => perm.symm.subperm

theorem windows_whole (xs : List String) (some : xs ≠ []) : windows xs.length xs = [xs] := by
  obtain ⟨x, rest, rfl⟩ := List.exists_cons_of_ne_nil some
  have later : windows (x :: rest).length rest = [] := by
    rw [← List.length_eq_zero_iff, List.length_cons,
      windows_length (Nat.succ_pos rest.length), Nat.sub_self]
  rw [windows, later, List.take_length, if_neg]
  rw [List.length_cons]
  omega

end Gram

namespace Bleu

/-- A perfect score: there are grams of all lengths that are looked at, all of them are matched, and
the candidate is not shorter than its reference. -/
structure Perfect (maxOrder : Nat) (reference candidate : List String) : Prop where
  full : ∀ n, 1 ≤ n → n ≤ order maxOrder reference candidate →
    (precisionRatio n reference candidate).Full
  long : reference.length ≤ candidate.length

variable {maxOrder : Nat} {reference candidate : List String}

/-- Single tokens that are all matched leave no room for a longer candidate. -/
theorem Perfect.same_length (perfect : Perfect maxOrder reference candidate)
    (positive : 1 ≤ maxOrder)
    (some : reference ≠ []) : reference.length = candidate.length := by
  have first := (perfect.full 1 (Nat.le_refl 1) (order_pos positive candidate some)).1
  have held := ((Gram.matched_eq_total_iff 1 reference candidate).1 first).length_le
  rw [Gram.windows_length Nat.one_pos, Gram.windows_length Nat.one_pos] at held
  have long := perfect.long
  omega

theorem perfect_iff_same_grams (positive : 1 ≤ maxOrder) (some : reference ≠ []) :
    Perfect maxOrder reference candidate ↔
      ∀ n, 1 ≤ n → n ≤ order maxOrder reference candidate →
        Gram.table n reference = Gram.table n candidate := by
  constructor
  · intro perfect n least within
    have same := perfect.same_length positive some
    rw [Gram.table_eq_iff, ← Gram.matched_eq_total_iff_perm least same]
    exact (perfect.full n least within).1
  · intro grams
    have singles := Gram.table_eq_iff.1
      (grams 1 (Nat.le_refl 1) (order_pos positive candidate some))
    have same := singles.length_eq
    rw [Gram.windows_length Nat.one_pos, Gram.windows_length Nat.one_pos, Nat.add_sub_cancel,
      Nat.add_sub_cancel] at same
    refine ⟨fun n least within => ⟨?_, ?_⟩, same.le⟩
    · exact (Gram.matched_eq_total_iff_perm least same).2
        (Gram.table_eq_iff.1 (grams n least within))
    · rw [order, same, Nat.max_self] at within
      show 0 < (Gram.windows n candidate).length
      rw [Gram.windows_length least]
      omega

/-- Grams as long as the lists themselves tell all lists apart. -/
theorem perfect_iff_eq (positive : 1 ≤ maxOrder) (some : reference ≠ [])
    (whole : max reference.length candidate.length ≤ maxOrder) :
    Perfect maxOrder reference candidate ↔ reference = candidate := by
  constructor
  · intro perfect
    have same := perfect.same_length positive some
    have least : 1 ≤ reference.length := List.length_pos_of_ne_nil some
    have some' : candidate ≠ [] := List.ne_nil_of_length_pos (same ▸ least)
    have within : reference.length ≤ order maxOrder reference candidate := by
      rw [order]
      omega
    have longest := Gram.table_eq_iff.1
      ((perfect_iff_same_grams positive some).1 perfect reference.length least within)
    rw [Gram.windows_whole reference some, same, Gram.windows_whole candidate some'] at longest
    exact List.singleton_perm_singleton.1 longest
  · rintro rfl
    exact (perfect_iff_same_grams positive some).2 fun n _ _ => rfl

theorem ratio_full_iff_precision_one (n : Nat) (few : candidate.length < 2 ^ 53) :
    (precisionRatio n reference candidate).Full ↔ precision n reference candidate = 1.0 := by
  by_cases none : Gram.total n candidate = 0
  · have apart : (0.0 : Float) ≠ 1.0 := fun same =>
      absurd (congrArg (· == (1.0 : Float)) same) (by decide +kernel)
    have zero : precision n reference candidate = 0.0 := if_pos none
    rw [zero]
    exact iff_of_false (fun full => full.2.ne' none) apart
  · have grams := Gram.windows_length_le n candidate
    have small : SmallCount (Gram.total n candidate) := by
      refine ⟨Nat.pos_of_ne_zero none, ?_⟩
      rw [Gram.total]
      omega
    exact (Ratio.to_float_eq_one_iff small (Gram.matched_le_total n reference candidate)).symm

/-- A perfect score shows in the doubles: all precisions are one. -/
theorem perfect_iff_precisions_one (few : candidate.length < 2 ^ 53) :
    Perfect maxOrder reference candidate ↔
      reference.length ≤ candidate.length ∧
        ∀ n, 1 ≤ n → n ≤ order maxOrder reference candidate →
        precision n reference candidate = 1.0 := by
  have shown : ∀ n, (precisionRatio n reference candidate).Full ↔
      precision n reference candidate = 1.0 :=
    fun n => ratio_full_iff_precision_one n few
  constructor
  · exact fun perfect =>
      ⟨perfect.long, fun n least within => (shown n).1 (perfect.full n least within)⟩
  · exact fun ⟨long, ones⟩ => ⟨fun n least within => (shown n).2 (ones n least within), long⟩

/-- A score is perfect exactly where both token lists have the same grams of all lengths that are
looked at, each of them as often. Where these lengths reach up to the longer list, the lists are
equal, so that different lists with a perfect score are longer than any gram that is looked at. In
doubles, a perfect score means that all precisions are one, and is one itself. -/
theorem perfect_score_iff_same_grams (maxOrder : Nat) (reference candidate : List String)
    (positive : 1 ≤ maxOrder) (some : reference ≠ []) :
    (Perfect maxOrder reference candidate ↔
        ∀ n, 1 ≤ n → n ≤ min maxOrder (max reference.length candidate.length) →
          Gram.table n reference = Gram.table n candidate) ∧
      (max reference.length candidate.length ≤ maxOrder →
        (Perfect maxOrder reference candidate ↔ reference = candidate)) ∧
      (Perfect maxOrder reference candidate → reference ≠ candidate →
        maxOrder < reference.length ∧ maxOrder < candidate.length ∧
          ∀ n, 1 ≤ n → n ≤ maxOrder → Gram.table n reference = Gram.table n candidate) ∧
      (candidate.length < 2 ^ 53 →
        (Perfect maxOrder reference candidate ↔
          reference.length ≤ candidate.length ∧
            ∀ n, 1 ≤ n → n ≤ order maxOrder reference candidate →
              precision n reference candidate = 1.0)) ∧
      (∀ library : Elementary, library.Anchored → candidate.length < 2 ^ 64 →
        Perfect maxOrder reference candidate →
          brevityPenalty reference.length candidate.length library = 1.0 ∧
            ofTokens maxOrder reference candidate library = 1.0) := by
  have grams : Perfect maxOrder reference candidate ↔
      ∀ n, 1 ≤ n → n ≤ order maxOrder reference candidate →
        Gram.table n reference = Gram.table n candidate := perfect_iff_same_grams positive some
  have length := List.length_pos_of_ne_nil some
  refine ⟨grams, perfect_iff_eq positive some, ?_, perfect_iff_precisions_one, ?_⟩
  · intro perfect different
    have same := perfect.same_length positive some
    have longer : maxOrder < max reference.length candidate.length := by
      by_contra reach
      exact different ((perfect_iff_eq positive some (Nat.le_of_not_gt reach)).1 perfect)
    refine ⟨by omega, by omega, fun n least within => grams.1 perfect n least ?_⟩
    rw [order]
    omega
  · intro library anchored few perfect
    have same := perfect.same_length positive some
    have some' : candidate ≠ [] := List.ne_nil_of_length_pos (same ▸ length)
    refine ⟨brevity_penalty_one anchored perfect.long (same ▸ length) few, ?_⟩
    apply of_tokens_one anchored positive some some' few perfect.long
    exact fun n within => precision_full (perfect.full (n + 1) (Nat.succ_pos n) within) few

/-- Five tokens in two orders with the same pairs of neighbours. -/
theorem reordered_list_scores_perfectly :
    let reference := ["a", "b", "a", "c", "a"]
    let candidate := ["a", "c", "a", "b", "a"]
    Perfect 2 reference candidate ∧ reference ≠ candidate ∧ ¬ Perfect 5 reference candidate ∧
      ofTokens 2 reference candidate coarseLibrary = 1.0 := by
  intro reference candidate
  obtain ⟨grams, -, -, -, score⟩ :=
    perfect_score_iff_same_grams 2 reference candidate (by decide) (by decide)
  obtain ⟨-, whole, -⟩ := perfect_score_iff_same_grams 5 reference candidate (by decide) (by decide)
  have different : reference ≠ candidate := by decide
  have perfect : Perfect 2 reference candidate := by
    refine grams.2 fun n least within => Gram.table_eq_iff.2 ?_
    have most : n ≤ 2 := within.trans (Nat.min_le_left _ _)
    interval_cases n
    · decide
    · decide
  exact ⟨perfect, different, fun perfect' => different ((whole (by decide)).1 perfect'),
    (score coarseLibrary coarse_library_anchored (by decide) perfect).2⟩

end Bleu

end Resemblance
