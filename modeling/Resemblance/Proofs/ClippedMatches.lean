import Mathlib
import Resemblance.Proofs.HistogramDistance
import Resemblance.Proofs.OwnScore
import Resemblance.Proofs.SharedGrams

/-!
The matched grams of two token lists are those that both have in common, each of them as often as
the list that has it less often. As a size of a common part, their number does not depend on the
sides, grows with either list, and shrinks as grams get longer, since a common gram begins with a
shorter one. So a precision is a ratio of a part to its whole, and it is one for a candidate that
stands in the reference.
-/

namespace Resemblance

namespace Gram

section Windows

variable {α : Type} {n : Nat}

theorem windows_nothing (xs : List α) : windows 0 xs = [] := by
  cases xs with
  | nil => rfl
  | cons x rest => exact if_pos (.inl rfl)

theorem windows_tail_sublist (n : Nat) (x : α) (rest : List α) :
    (windows n rest).Sublist (windows n (x :: rest)) := by
  by_cases short : n = 0 ∨ rest.length + 1 < n
  · have none : windows n rest = [] := by
      rcases short with rfl | short
      · exact windows_nothing rest
      · apply List.eq_nil_of_length_eq_zero
        rw [windows_length (by omega)]
        omega
    rw [none]
    exact List.nil_sublist _
  · rw [windows, if_neg short]
    exact List.sublist_cons_self _ _

theorem windows_sublist_before (n : Nat) (before xs : List α) :
    (windows n xs).Sublist (windows n (before ++ xs)) := by
  induction before with
  | nil => exact List.Sublist.refl _
  | cons x rest ih => exact ih.trans (windows_tail_sublist n x (rest ++ xs))

theorem windows_sublist_after (n : Nat) (xs after : List α) :
    (windows n xs).Sublist (windows n (xs ++ after)) := by
  induction xs with
  | nil => exact List.nil_sublist _
  | cons x rest ih =>
      by_cases short : n = 0 ∨ rest.length + 1 < n
      · rw [windows, if_pos short]
        exact List.nil_sublist _
      · have longer : ¬(n = 0 ∨ (rest ++ after).length + 1 < n) := by
          rw [List.length_append]
          omega
        have same : ((x :: rest) ++ after).take n = (x :: rest).take n := by
          apply List.take_append_of_le_length
          rw [List.length_cons]
          omega
        rw [List.cons_append, windows, windows, if_neg short, if_neg longer,
          ← List.cons_append, same]
        exact ih.cons_cons _

theorem windows_sublist (n : Nat) (before xs after : List α) :
    (windows n xs).Sublist (windows n (before ++ xs ++ after)) := by
  apply (windows_sublist_before n before xs).trans
  exact windows_sublist_after n (before ++ xs) after

theorem windows_beginnings (positive : 0 < n) (xs : List α) :
    ((windows (n + 1) xs).map (List.take n)).Sublist (windows n xs) := by
  induction xs with
  | nil => exact List.Sublist.refl _
  | cons x rest ih =>
      by_cases short : rest.length + 1 < n + 1
      · rw [windows, if_pos (.inr short)]
        exact List.nil_sublist _
      · have beginning : ((x :: rest).take (n + 1)).take n = (x :: rest).take n := by
          rw [List.take_take, Nat.min_eq_left (Nat.le_succ n)]
        rw [windows, windows, if_neg (by omega), if_neg (by omega), List.map_cons, beginning]
        exact ih.cons_cons _

end Windows

section Matches

open Multiset (card card_le_card inter_le_left inter_le_right map_le_map)

variable {n : Nat} {reference candidate : List String}

def grams (n : Nat) (tokens : List String) : Multiset (List String) :=
  (windows n tokens : Multiset (List String))

/-- The matched grams are the common part of the grams of both lists. -/
theorem matched_eq_card (n : Nat) (reference candidate : List String) :
    matched n reference candidate = card (grams n reference ∩ grams n candidate) := by
  have included : ∀ gram ∈ grams n reference ∩ grams n candidate,
      gram ∈ (windows n candidate).eraseDups.toFinset := by
    intro gram common
    rw [List.mem_toFinset, List.mem_eraseDups]
    exact Multiset.mem_coe.1 (Multiset.mem_inter.1 common).2
  rw [matched, sum_of_eq_sum, ← List.sum_toFinset _ (nodup_erase_dups _),
    ← Multiset.sum_count_eq_card included,
    lawful_beq_subsingleton List.instBEq instBEqOfDecidableEq]
  apply Finset.sum_congr rfl
  intro gram _
  rw [Multiset.count_inter, Nat.min_comm, grams, grams, Multiset.coe_count, Multiset.coe_count]

theorem matched_comm (n : Nat) (reference candidate : List String) :
    matched n reference candidate = matched n candidate reference := by
  rw [matched_eq_card, matched_eq_card, Multiset.inter_comm]

theorem matched_mono {reference' candidate' : List String}
    (more : (windows n reference).Sublist (windows n reference'))
    (more' : (windows n candidate).Sublist (windows n candidate')) :
    matched n reference candidate ≤ matched n reference' candidate' := by
  rw [matched_eq_card, matched_eq_card]
  apply card_le_card
  apply Multiset.le_inter
  · exact inter_le_left.trans (Multiset.coe_le.2 more.subperm)
  · exact inter_le_right.trans (Multiset.coe_le.2 more'.subperm)

theorem grams_beginnings_le (positive : 0 < n) (tokens : List String) :
    (grams (n + 1) tokens).map (List.take n) ≤ grams n tokens := by
  rw [grams, grams, Multiset.map_coe]
  exact Multiset.coe_le.2 (windows_beginnings positive tokens).subperm

/-- No more longer grams are matched than shorter ones: with their beginnings they share the common
part. -/
theorem matched_succ_le (positive : 0 < n) (reference candidate : List String) :
    matched (n + 1) reference candidate ≤ matched n reference candidate := by
  have beginnings : (grams (n + 1) reference ∩ grams (n + 1) candidate).map (List.take n) ≤
      grams n reference ∩ grams n candidate := by
    apply Multiset.le_inter
    · exact (map_le_map inter_le_left).trans (grams_beginnings_le positive reference)
    · exact (map_le_map inter_le_right).trans (grams_beginnings_le positive candidate)
  have counted := card_le_card beginnings
  rw [Multiset.card_map] at counted
  rw [matched_eq_card, matched_eq_card]
  exact counted

theorem matched_of_infix (n : Nat) (inside : candidate <:+: reference) :
    matched n reference candidate = total n candidate := by
  obtain ⟨before, after, rfl⟩ := inside
  apply Nat.le_antisymm (matched_le_total n _ candidate)
  rw [← matched_self n candidate]
  exact matched_mono (windows_sublist n before candidate after) (List.Sublist.refl _)

end Matches

end Gram

namespace Bleu

variable {n : Nat} {reference candidate : List String}

theorem precision_value_within (n : Nat) (reference candidate : List String) :
    0 ≤ (precisionRatio n reference candidate).value ∧
    (precisionRatio n reference candidate).value ≤ 1 :=
  ⟨Ratio.value_nonneg _, Ratio.value_le_one (Gram.matched_le_total n reference candidate)⟩

theorem precision_ratio_of_infix (positive : 0 < n) (inside : candidate <:+: reference)
    (long : n ≤ candidate.length) : (precisionRatio n reference candidate).Full := by
  constructor
  · exact Gram.matched_of_infix n inside
  · show 0 < (Gram.windows n candidate).length
    rw [Gram.windows_length positive]
    omega

end Bleu

theorem Ratio.Full.value_eq {ratio : Ratio} (full : ratio.Full) : ratio.value = 1 := by
  rw [Ratio.value, full.1]
  exact div_self (Nat.cast_ne_zero.2 full.2.ne')

namespace Bleu

open Gram (matched total)

/-- The number of matched grams of a length is the same for both orders of the sides and at most the
number of grams of each side. It does not grow with the length of the grams, and does not shrink
when a list goes on at either end. So the precision, exact or in doubles, lies in the unit interval,
and it is one for a candidate with grams that stands in the reference. -/
theorem matched_grams_are_a_common_part (n : Nat) (reference candidate : List String)
    (positive : 1 ≤ n) :
    matched n reference candidate = matched n candidate reference ∧
      matched n reference candidate ≤ total n reference ∧
      matched n reference candidate ≤ total n candidate ∧
      matched (n + 1) reference candidate ≤ matched n reference candidate ∧
      (∀ before after : List String,
        matched n reference candidate ≤ matched n (before ++ reference ++ after) candidate ∧
          matched n reference candidate ≤ matched n reference (before ++ candidate ++ after)) ∧
      (0 ≤ (precisionRatio n reference candidate).value ∧
        (precisionRatio n reference candidate).value ≤ 1) ∧
      (candidate <:+: reference → n ≤ candidate.length →
        (precisionRatio n reference candidate).value = 1) ∧
      (candidate.length < 2 ^ 64 →
        InUnit (precision n reference candidate) ∧
          (candidate <:+: reference → n ≤ candidate.length →
            precision n reference candidate = 1.0)) := by
  have symmetric := Gram.matched_comm n reference candidate
  have grown : ∀ before after : List String,
      matched n reference candidate ≤ matched n (before ++ reference ++ after) candidate ∧
        matched n reference candidate ≤ matched n reference (before ++ candidate ++ after) := by
    intro before after
    constructor
    · exact Gram.matched_mono (Gram.windows_sublist n before reference after) (List.Sublist.refl _)
    · exact Gram.matched_mono (List.Sublist.refl _) (Gram.windows_sublist n before candidate after)
  have full := fun inside : candidate <:+: reference =>
    precision_ratio_of_infix (n := n) positive inside
  refine ⟨symmetric, ?_, Gram.matched_le_total n reference candidate,
    Gram.matched_succ_le positive reference candidate, grown,
    precision_value_within n reference candidate, fun inside long =>
      (full inside long).value_eq, ?_⟩
  · rw [symmetric]
    exact Gram.matched_le_total n candidate reference
  · intro few
    constructor
    · exact in_unit_iff.2 (precision_within n reference few)
    · exact fun inside long => precision_full (full inside long) few

/-- A repeated token is matched as often as the reference has it, and a candidate inside of the
reference has precision one. -/
theorem repeated_tokens_are_clipped :
    matched 1 ["the", "cat"] ["the", "the", "the"] = 1 ∧
      matched 1 ["the", "cat"] ["the", "the", "the"] =
        matched 1 ["the", "the", "the"] ["the", "cat"] ∧
      precision 2 ["x", "=", "x", "+", "x"] ["=", "x", "+"] = 1.0 := by
  obtain ⟨symmetric, -⟩ :=
    matched_grams_are_a_common_part 1 ["the", "cat"] ["the", "the", "the"] (by decide)
  obtain ⟨-, -, -, -, -, -, -, doubles⟩ :=
    matched_grams_are_a_common_part 2 ["x", "=", "x", "+", "x"] ["=", "x", "+"] (by decide)
  have inside : ["=", "x", "+"] <:+: ["x", "=", "x", "+", "x"] := ⟨["x"], ["x"], rfl⟩
  exact ⟨by decide, symmetric, (doubles (by decide)).2 inside (by decide)⟩

end Bleu

end Resemblance
