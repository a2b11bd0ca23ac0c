import Mathlib
import Resemblance.Bleu
import Resemblance.Proofs.EditBounds
import Resemblance.Proofs.ScoreRange

/-!
The range of the bilingual evaluation score. Its precisions are in the unit interval, so that the
logarithms and their sum are not positive, and exponentials of what is not positive are in the unit
interval again. How the library rounds plays no part, as long as it keeps to the signs.
-/

namespace Resemblance

/-- The library of elementary functions keeps to the signs of the exact values. -/
structure Elementary.Lawful (library : Elementary) : Prop where
  exp_in_unit : ∀ x, x ≤ 0.0 → InUnit (library.exp x)
  log_nonpos : ∀ x, 0.0 < x → x ≤ 1.0 → library.log x ≤ 0.0

/-- A library that is exact where the values are numbers of its own, and coarse elsewhere. -/
def coarseLibrary : Elementary where
  exp x := if x == 0.0 then 1.0 else 0.0
  log x := if x == 1.0 then 0.0 else -1.0

theorem coarse_library_lawful : coarseLibrary.Lawful where
  exp_in_unit x _ := by
    dsimp only [coarseLibrary]
    split
    · exact ⟨by decide +kernel, by decide +kernel⟩
    · exact ⟨by decide +kernel, by decide +kernel⟩
  log_nonpos x _ _ := by
    dsimp only [coarseLibrary]
    split
    · decide +kernel
    · decide +kernel

namespace Gram

theorem windows_length_le {α : Type} (n : Nat) (xs : List α) :
    (windows n xs).length ≤ xs.length := by
  induction xs with
  | nil => exact Nat.le_refl 0
  | cons x rest ih =>
      rw [windows]
      split
      · exact Nat.zero_le _
      · rw [List.length_cons, List.length_cons]
        omega

theorem matched_le_total (n : Nat) (reference candidate : List String) :
    matched n reference candidate ≤ total n candidate := by
  rw [matched, total, sum_of_eq_sum, ← List.sum_toFinset _ (nodup_erase_dups _)]
  calc ∑ gram ∈ (windows n candidate).eraseDups.toFinset,
          min ((windows n candidate).count gram) ((windows n reference).count gram)
      ≤ ∑ gram ∈ (windows n candidate).eraseDups.toFinset, (windows n candidate).count gram :=
        Finset.sum_le_sum fun gram _ => Nat.min_le_left _ _
    _ ≤ (windows n candidate).length :=
        Edit.sum_count_le_length (fun _ _ _ _ same => same) (windows n candidate)

end Gram

namespace Bleu

variable {library : Elementary} {reference candidate : List String}

theorem precision_within (n : Nat) (reference : List String) (few : candidate.length < 2 ^ 64) :
    Within 1 (precision n reference candidate) := by
  have grams := Gram.windows_length_le n candidate
  apply Ratio.within_one (Gram.matched_le_total n reference candidate)
  show (Gram.windows n candidate).length ≤ 2 ^ 70
  omega

theorem brevity_penalty_within (lawful : library.Lawful) (referenceLength candidateLength : Nat)
    (few : referenceLength < 2 ^ 64) :
    Within 1 (brevityPenalty referenceLength candidateLength library) := by
  unfold brevityPenalty
  split
  next => exact one_within
  next short =>
    split
    next => exact zero_within
    next some =>
      obtain ⟨number, number', worth, worth', ordered, nearest, nearest'⟩ :=
        counts_worth (Nat.le_of_not_gt short) (by omega)
      have least := nearest.one_le (Nat.pos_of_ne_zero some)
      have most : number' ≤ 2 ^ 64 :=
        nearest'.le_of_le (representable_two_pow 64) (by exact_mod_cast few.le)
      have quotient : number' / number ≤ 2 ^ 1023 :=
        ((div_le_self worth'.nonneg least).trans most).trans
          (pow_le_pow_right₀ one_le_two (by norm_num))
      obtain ⟨ratio, worth'', nearest'⟩ := (worth'.div worth (by linarith)).nearest quotient
      have great : 1 ≤ ratio :=
        nearest'.ge_of_ge representable_one ((one_le_div (by linarith)).2 ordered)
      have sided := (worth_literal_one.sub_negative worth'' great).sided
      exact in_unit_iff.1 (lawful.exp_in_unit _ (nonpos_iff_sided.2 sided))

def addLog? (library : Elementary) (reference candidate : List String) (sum : Float) (n : Nat) :
    Option Float :=
  let value := precision (n + 1) reference candidate
  if value == 0.0 then none else some (sum + library.log value)

theorem fold_logs_sided (lawful : library.Lawful) (few : candidate.length < 2 ^ 64)
    {lengths : List Nat}
    {start sum : Float} (sided : Sided .negative start)
    (found : lengths.foldlM (addLog? library reference candidate) start = some sum) :
    Sided .negative sum := by
  induction lengths generalizing start with
  | nil =>
      obtain rfl := Option.some.inj found
      exact sided
  | cons n rest ih =>
      rw [List.foldlM_cons] at found
      obtain ⟨next, step, later⟩ := Option.bind_eq_some_iff.1 found
      obtain ⟨some, added⟩ := Option.ite_none_left_eq_some.1 step
      obtain rfl := Option.some.inj added
      have within := precision_within (n + 1) reference few
      have positive := pos_of_within within (Bool.not_eq_true _ ▸ some)
      have logarithm := lawful.log_nonpos _ positive (in_unit_iff.2 within).2
      exact ih (sided.add (nonpos_iff_sided.1 logarithm)) later

theorem log_precision_sided (lawful : library.Lawful)
    (few : candidate.length < 2 ^ 64) {order : Nat}
    {sum : Float} (found : logPrecision reference candidate order library = some sum) :
    Sided .negative sum :=
  fold_logs_sided lawful few (nonpos_iff_sided.1 (in_unit_iff.2 zero_within).1) found

theorem tokens_and_order_given {maxOrder : Nat} (positive : 0 < maxOrder) (some : reference ≠ [])
    (some' : candidate ≠ []) :
    (reference.isEmpty || candidate.isEmpty || decide (maxOrder = 0)) = false := by
  simp [some, some', positive.ne']

theorem of_tokens_within (lawful : library.Lawful) (maxOrder : Nat)
    (few : reference.length < 2 ^ 64)
    (few' : candidate.length < 2 ^ 64) :
    Within 1 (ofTokens maxOrder reference candidate library) := by
  unfold ofTokens
  split
  next => exact zero_within
  next some =>
    dsimp only
    split
    next => exact zero_within
    next sum found =>
      simp only [Bool.or_eq_true, List.isEmpty_iff, decide_eq_true_eq, not_or] at some
      have tokens := List.length_pos_of_ne_nil some.1.1
      have positive : 0 < order maxOrder reference candidate := by
        rw [order]
        omega
      have small : order maxOrder reference candidate ≤ 2 ^ 70 := by
        rw [order]
        omega
      obtain ⟨number, -, worth, -, -, nearest, -⟩ := counts_worth (Nat.le_refl _) small
      have least := nearest.one_le positive
      have mean := (log_precision_sided lawful few' found).div worth (by linarith)
      have exponential := in_unit_iff.1 (lawful.exp_in_unit _ (nonpos_iff_sided.2 mean))
      have penalty := brevity_penalty_within lawful reference.length candidate.length few
      have product := penalty.mul exponential representable_one (mul_one 1).le
        (one_le_pow₀ one_le_two)
      exact within_unit_of_clamp product.sided

theorem score_within (lawful : library.Lawful) (maxOrder : Nat) {reference candidate : String}
    (small : reference.utf8ByteSize < 2 ^ 64) (small' : candidate.utf8ByteSize < 2 ^ 64) :
    Within 1 (score maxOrder reference candidate library) :=
  of_tokens_within lawful maxOrder ((Token.tokens_length_le reference).trans_lt small)
    ((Token.tokens_length_le candidate).trans_lt small')

end Bleu

end Resemblance
