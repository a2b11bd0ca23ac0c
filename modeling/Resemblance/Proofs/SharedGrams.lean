import Mathlib
import Resemblance.Proofs.BleuRange

/-!
Grams that two token lists share. A precision is zero exactly where no gram of its length is shared;
and with a gram the two lists share its beginnings. So the longest grams decide whether the score
ends at a precision of zero, and ending at the first one comes to the same as looking at all of
them.
-/

namespace Resemblance

namespace Gram

/-- Whether two lists have a stretch of `n` neighbouring elements in common. -/
def Shared {α : Type} (n : Nat) (xs ys : List α) : Prop :=
  ∃ gram : List α, gram.length = n ∧ gram <:+: xs ∧ gram <:+: ys

variable {α : Type} {n m : Nat} {xs ys gram : List α}

theorem Shared.shorter (shared : Shared m xs ys) (shorter : n ≤ m) : Shared n xs ys := by
  obtain ⟨gram, length, left, right⟩ := shared
  have beginning : gram.take n <:+: gram := (List.take_prefix n gram).isInfix
  refine ⟨gram.take n, ?_, beginning.trans left, beginning.trans right⟩
  rw [List.length_take, length, Nat.min_eq_left shorter]

theorem mem_windows_iff (positive : 0 < n) : gram ∈ windows n xs ↔
    gram.length = n ∧ gram <:+: xs := by
  induction xs with
  | nil =>
      rw [windows, List.infix_nil]
      constructor
      · intro member
        cases member
      · rintro ⟨length, rfl⟩
        exact absurd length positive.ne
  | cons x rest ih =>
      rw [windows]
      split
      next short =>
        constructor
        · intro member
          cases member
        · rintro ⟨length, found⟩
          have fits := found.length_le
          rw [List.length_cons] at fits
          omega
      next enough =>
        have first : gram = (x :: rest).take n ↔ gram.length = n ∧ gram <+: x :: rest := by
          rw [List.prefix_iff_eq_take]
          constructor
          · rintro rfl
            have length : ((x :: rest).take n).length = n := by
              rw [List.length_take, List.length_cons]
              omega
            rw [length]
            exact ⟨rfl, rfl⟩
          · rintro ⟨rfl, begins⟩
            exact begins
        rw [List.mem_cons, ih, first, List.infix_cons_iff, and_or_left]

theorem exists_window_iff (positive : 0 < n) :
    (∃ gram ∈ windows n ys, gram ∈ windows n xs) ↔ Shared n xs ys := by
  simp only [mem_windows_iff positive]
  constructor
  · rintro ⟨gram, ⟨length, right⟩, -, left⟩
    exact ⟨gram, length, left, right⟩
  · rintro ⟨gram, length, left, right⟩
    exact ⟨gram, ⟨length, right⟩, length, left⟩

/-- No gram is matched exactly where none is shared. -/
theorem matched_eq_zero_iff (positive : 0 < n) (reference candidate : List String) :
    matched n reference candidate = 0 ↔ ¬ Shared n reference candidate := by
  rw [← exists_window_iff positive, matched, sum_of_eq_sum, List.sum_eq_zero_iff,
    List.forall_mem_map]
  simp only [List.mem_eraseDups, not_exists, not_and]
  refine forall₂_congr fun gram member => ?_
  have some : 0 < (windows n candidate).count gram := List.count_pos_iff.2 member
  rw [← List.count_eq_zero]
  omega

end Gram

section Ratio

variable {ratio : Ratio}

theorem Ratio.to_float_eq_zero_iff (bounded : ratio.part ≤ ratio.whole)
    (small : ratio.whole ≤ 2 ^ 70) :
    (ratio.toFloat == 0.0) = true ↔ ratio.part = 0 := by
  unfold Ratio.toFloat
  split
  next nothing =>
    have none : ratio.part = 0 := by omega
    simp only [none, iff_true]
    decide +kernel
  next some =>
    obtain ⟨number, number', worth, worth', ordered, nearest, nearest'⟩ :=
      counts_worth bounded small
    have positive := nearest'.one_le (Nat.pos_of_ne_zero some)
    have most : number' ≤ 2 ^ 70 :=
      nearest'.le_of_le (representable_two_pow 70) (by exact_mod_cast small)
    have bound : number / number' ≤ 2 ^ 1023 :=
      ((div_le_one (by linarith)).2 ordered).trans (one_le_pow₀ one_le_two)
    obtain ⟨quotient, worth'', rounded⟩ := (worth.div worth' (by linarith)).nearest bound
    have equal : (ratio.part.toFloat / ratio.whole.toFloat == 0.0) = true ↔ quotient = 0 := by
      rw [literal_zero]
      exact (worth''.valued.beq_iff worth_zero.valued).trans EReal.coe_eq_coe_iff
    rw [equal]
    constructor
    · intro nothing
      by_contra matched
      have least := nearest.one_le (Nat.pos_of_ne_zero matched)
      -- One part of the greatest whole is far above the least double.
      have lowest : (2 : ℝ) ^ (-70 : Int) ≤ number / number' := by
        rw [le_div_iff₀ (by linarith)]
        calc (2 : ℝ) ^ (-70 : Int) * number' ≤ 2 ^ (-70 : Int) * 2 ^ 70 :=
              mul_le_mul_of_nonneg_left most (by positivity)
          _ = 1 := by norm_num
          _ ≤ number := least
      have above := rounded.ge_of_ge (representable_two_zpow (by norm_num)) lowest
      rw [nothing] at above
      exact absurd above (by positivity : (0 : ℝ) < 2 ^ (-70 : Int)).not_ge
    · intro none
      rw [none, Nat.cast_zero] at nearest
      have low := nearest.le_of_le representable_zero le_rfl
      have zero : number / number' = 0 := by
        rw [le_antisymm low worth.nonneg, zero_div]
      rw [zero] at rounded
      exact le_antisymm (rounded.le_of_le representable_zero le_rfl) worth''.nonneg

end Ratio

namespace Bleu

variable {library : Elementary} {reference candidate : List String}

theorem precision_eq_zero_iff {n : Nat} (positive : 0 < n) (reference : List String)
    (few : candidate.length < 2 ^ 64) :
    (precision n reference candidate == 0.0) = true ↔ ¬ Gram.Shared n reference candidate := by
  have grams := Gram.windows_length_le n candidate
  rw [precision, Ratio.to_float_eq_zero_iff (Gram.matched_le_total n reference candidate)]
  · exact Gram.matched_eq_zero_iff positive reference candidate
  · show (Gram.windows n candidate).length ≤ 2 ^ 70
    omega

def addLogs (library : Elementary) (reference candidate : List String) (lengths : List Nat)
    (start : Float) : Float :=
  lengths.foldl (fun sum n => sum + library.log (precision (n + 1) reference candidate)) start

theorem fold_logs_eq (library : Elementary) (lengths : List Nat) (start : Float) :
    lengths.foldlM (addLog? library reference candidate) start =
      if lengths.any fun n => precision (n + 1) reference candidate == 0.0 then none
      else some (addLogs library reference candidate lengths start) := by
  induction lengths generalizing start with
  | nil => rfl
  | cons n rest ih =>
      rw [List.foldlM_cons, List.any_cons, addLog?]
      cases precision (n + 1) reference candidate == 0.0 with
      | true => rfl
      | false =>
          rw [Bool.false_or, addLogs, List.foldl_cons]
          exact ih _

theorem log_precision_eq (library : Elementary) (order : Nat) :
    logPrecision reference candidate order library =
      if (List.range order).any fun n => precision (n + 1) reference candidate == 0.0 then none
      else some (addLogs library reference candidate (List.range order) 0.0) :=
  fold_logs_eq library (List.range order) 0.0

/-- One of the precisions up to an order is zero exactly where the last one is. -/
theorem any_precision_zero_iff {order : Nat} (positive : 0 < order)
    (few : candidate.length < 2 ^ 64) :
    ((List.range order).any fun n => precision (n + 1) reference candidate == 0.0) = true ↔
      ¬ Gram.Shared order reference candidate := by
  simp only [List.any_eq_true, List.mem_range, precision_eq_zero_iff (Nat.succ_pos _) reference few]
  constructor
  · rintro ⟨n, within, apart⟩ shared
    exact apart (shared.shorter within)
  · intro apart
    have last : (order - 1).succ = order := Nat.sub_add_cancel positive
    refine ⟨order - 1, by omega, ?_⟩
    rwa [last]

theorem log_precision_eq_none_iff (library : Elementary) {order : Nat} (positive : 0 < order)
    (few : candidate.length < 2 ^ 64) :
    logPrecision reference candidate order library = none ↔
      ¬ Gram.Shared order reference candidate := by
  rw [log_precision_eq, ← any_precision_zero_iff positive few, ite_eq_left_iff]
  simp

theorem order_pos {maxOrder : Nat} (positive : 0 < maxOrder) (candidate : List String)
    (some : reference ≠ []) : 0 < order maxOrder reference candidate := by
  have tokens := List.length_pos_of_ne_nil some
  rw [order]
  omega

/-- The score from all precisions at once: zero where one of them is, else their geometric mean
times the penalty. -/
def ofAllPrecisions (maxOrder : Nat) (reference candidate : List String)
    (library : Elementary) : Float :=
  let lengths := List.range (order maxOrder reference candidate)
  if lengths.any fun n => precision (n + 1) reference candidate == 0.0 then 0.0
  else
    clampUnit
      (brevityPenalty reference.length candidate.length library *
        library.exp (addLogs library reference candidate lengths 0.0 /
          (order maxOrder reference candidate).toFloat))

theorem of_tokens_eq_of_all (library : Elementary) {maxOrder : Nat} (positive : 0 < maxOrder)
    (some : reference ≠ []) (some' : candidate ≠ []) :
    ofTokens maxOrder reference candidate library =
      ofAllPrecisions maxOrder reference candidate library := by
  rw [ofTokens, tokens_and_order_given positive some some', if_neg Bool.false_ne_true,
    ofAllPrecisions]
  dsimp only
  rw [log_precision_eq]
  split_ifs with zero
  · rfl
  · rfl

/-- The score ends at a precision of zero exactly where the two token lists share no gram of the
greatest length looked at, since a precision that is not zero is so for all shorter grams; and this
is the score that all precisions together give. -/
theorem zero_exit_iff_longest_grams_apart (library : Elementary) (maxOrder : Nat)
    (reference candidate : List String) (positive : 1 ≤ maxOrder) (some : reference ≠ [])
    (some' : candidate ≠ []) (few : candidate.length < 2 ^ 64) :
    (logPrecision reference candidate (order maxOrder reference candidate) library = none ↔
        ¬ ∃ gram : List String, gram.length = min maxOrder (max reference.length candidate.length) ∧
          gram <:+: reference ∧ gram <:+: candidate) ∧
      (∀ n m, 1 ≤ n → n ≤ m → (precision m reference candidate == 0.0) = false →
        (precision n reference candidate == 0.0) = false) ∧
      ofTokens maxOrder reference candidate library =
        ofAllPrecisions maxOrder reference candidate library := by
  refine ⟨?_, ?_, of_tokens_eq_of_all library positive some some'⟩
  · exact log_precision_eq_none_iff library (order_pos positive candidate some) few
  · intro n m least less
    rw [← Bool.not_eq_true, ← Bool.not_eq_true, precision_eq_zero_iff least reference few,
      precision_eq_zero_iff (least.trans less) reference few, not_not, not_not]
    exact fun shared => shared.shorter less

/-- A reference without the candidate's last token, and grams of two at most. -/
theorem shortened_list_shares_pairs :
    (logPrecision ["x", "=", "1"] ["x", "=", "1", ";"] 2 = none ↔
        ¬ ∃ gram : List String, gram.length = 2 ∧ gram <:+: ["x", "=", "1"] ∧
          gram <:+: ["x", "=", "1", ";"]) ∧
      (logPrecision ["x", "=", "1"] ["x", "=", "1", ";"] 2).isSome = true := by
  obtain ⟨exit, -, -⟩ := zero_exit_iff_longest_grams_apart .platform 2 ["x", "=", "1"]
    ["x", "=", "1", ";"] (by decide) (by decide) (by decide) (by decide)
  refine ⟨exit, Option.isSome_iff_ne_none.2 fun none => exit.1 none ?_⟩
  exact ⟨["x", "="], rfl, ⟨[], ["1"], rfl⟩, ⟨[], ["1", ";"], rfl⟩⟩

end Bleu

end Resemblance
