import Mathlib
import Resemblance.Proofs.ExactNumbers

/-!
Variance in exact arithmetic. The squares that are summed up in one pass are those of the deviations
from the mean, so that the variance is the one of a sample; and without any variance all numbers are
equal.
-/

namespace Resemblance

section Sums

variable {xs : List ℝ}

noncomputable def squaredDeviations (xs : List ℝ) : ℝ :=
  (xs.map fun x => (x - xs.sum / xs.length) ^ 2).sum

theorem squared_deviations_eq (xs : List ℝ) :
    squaredDeviations xs = (xs.map (· ^ 2)).sum - xs.sum ^ 2 / xs.length := by
  have about (center : ℝ) (ys : List ℝ) : (ys.map fun x => (x - center) ^ 2).sum =
      (ys.map (· ^ 2)).sum - 2 * center * ys.sum + ys.length * center ^ 2 := by
    induction ys with
    | nil => simp
    | cons y rest induction =>
        simp only [List.map_cons, List.sum_cons, List.length_cons, induction, Nat.cast_succ]
        ring
  rw [squaredDeviations, about]
  cases xs with
  | nil => simp
  | cons x rest =>
      have some : ((x :: rest).length : ℝ) ≠ 0 := Nat.cast_ne_zero.2 (Nat.succ_ne_zero _)
      field_simp
      ring

theorem squared_deviations_nonneg (xs : List ℝ) : 0 ≤ squaredDeviations xs :=
  List.sum_nonneg (List.forall_mem_map.2 fun x _ => sq_nonneg (x - xs.sum / xs.length))

theorem all_mean_iff_all_equal :
    (∀ x ∈ xs, x = xs.sum / xs.length) ↔ ∀ x ∈ xs, ∀ y ∈ xs, x = y := by
  constructor
  · exact fun centered x member y member' => (centered x member).trans (centered y member').symm
  · intro equal x member
    have some : (xs.length : ℝ) ≠ 0 := Nat.cast_ne_zero.2 (List.length_pos_of_mem member).ne'
    have sum := List.sum_eq_card_nsmul xs x fun y member' => equal y member' x member
    rw [eq_div_iff some, sum, nsmul_eq_mul, mul_comm]

theorem squared_deviations_eq_zero_iff :
    squaredDeviations xs = 0 ↔ ∀ x ∈ xs, ∀ y ∈ xs, x = y := by
  rw [← all_mean_iff_all_equal]
  constructor
  · intro nothing x member
    have least := List.single_le_sum
      (List.forall_mem_map.2 fun y _ => sq_nonneg (y - xs.sum / xs.length)) _
        (List.mem_map_of_mem member)
    exact sub_eq_zero.1
      (pow_eq_zero_iff two_ne_zero |>.1 (le_antisymm (least.trans nothing.le) (sq_nonneg _)))
  · intro centered
    refine List.sum_eq_zero (List.forall_mem_map.2 fun x member => ?_)
    rw [sub_eq_zero.2 (centered x member), zero_pow two_ne_zero]

/-- What one more number adds, by how far a number of times it is from the sum. -/
theorem squared_deviations_append (some : xs ≠ []) (x : ℝ) :
    squaredDeviations (xs ++ [x]) = squaredDeviations xs +
      ((xs.length + 1) * x - (xs.sum + x)) * ((xs.length + 1) * x - (xs.sum + x)) /
        ((xs.length + 1) * xs.length) := by
  have positive : (xs.length : ℝ) ≠ 0 := Nat.cast_ne_zero.2 (List.length_pos_of_ne_nil some).ne'
  have positive' : (xs.length : ℝ) + 1 ≠ 0 := by positivity
  rw [squared_deviations_eq, squared_deviations_eq, List.map_append, List.sum_append,
    List.sum_append,
    List.length_append, List.map_singleton, List.sum_singleton, List.sum_singleton,
    List.length_singleton, Nat.cast_succ]
  field_simp
  ring

end Sums

section Running

variable {running : RunningSquares ℝ} {seen xs : List ℝ}

/-- What is carried along stands for the numbers that were seen: their count, their sum and their
squared deviations. -/
structure RunningSquares.StandsFor (running : RunningSquares ℝ) (seen : List ℝ) : Prop where
  count : running.count = seen.length
  sum : running.sum = seen.sum
  squares : running.squares = squaredDeviations seen

theorem RunningSquares.StandsFor.add (stands : running.StandsFor seen) (some : seen ≠ []) (x : ℝ) :
    (running.add x).StandsFor (seen ++ [x]) where
  count := by
    rw [List.length_append, ← stands.count]
    rfl
  sum := by
    rw [List.sum_append, List.sum_singleton, ← stands.sum]
    rfl
  squares := by
    rw [squared_deviations_append some, ← stands.count, ← stands.sum, ← stands.squares]
    change running.squares +
      (((running.count + 1 : ℕ) : ℝ) * x - (running.sum + x)) *
        (((running.count + 1 : ℕ) : ℝ) * x - (running.sum + x)) /
          (((running.count + 1 : ℕ) : ℝ) * (((running.count + 1 : ℕ) : ℝ) - ((1 : ℕ) : ℝ))) = _
    rw [Nat.cast_succ, Nat.cast_one, add_sub_cancel_right]

theorem RunningSquares.StandsFor.follow (stands : running.StandsFor seen) (some : seen ≠ [])
    (xs : List ℝ) :
    (xs.foldl RunningSquares.add running).StandsFor (seen ++ xs) := by
  induction xs generalizing running seen with
  | nil => rwa [List.append_nil]
  | cons x rest induction =>
      rw [List.foldl_cons, ← List.singleton_append, ← List.append_assoc]
      exact induction (stands.add some x) (List.append_ne_nil_of_left_ne_nil some _)

/-- The variance that one pass computes is that of a sample. -/
theorem variance_eq (two : 2 ≤ xs.length) :
    variance xs = squaredDeviations xs / (xs.length - 1) := by
  match xs with
  | x :: y :: rest =>
      have first : (⟨1, x, Scalar.zero⟩ : RunningSquares ℝ).StandsFor [x] :=
        ⟨rfl, List.sum_singleton.symm, by simp [squaredDeviations, Scalar.zero, Scalar.ofNat]⟩
      have stands := first.follow (List.cons_ne_nil x []) (y :: rest)
      change (((y :: rest).foldl RunningSquares.add ⟨1, x, Scalar.zero⟩).squares : ℝ) /
        (((y :: rest).foldl RunningSquares.add ⟨1, x, (Scalar.zero : ℝ)⟩).count - ((1 : ℕ) : ℝ)) = _
      rw [stands.squares, stands.count, Nat.cast_one, List.singleton_append]

theorem deviation_nonneg (xs : List ℝ) : 0 ≤ deviation xs := by
  match xs with
  | [] => exact (Nat.cast_zero (R := ℝ)).ge
  | [_] => exact (Nat.cast_zero (R := ℝ)).ge
  | _ :: _ :: _ => exact Real.sqrt_nonneg _

theorem deviation_eq_zero_iff : deviation xs = 0 ↔ ∀ x ∈ xs, ∀ y ∈ xs, x = y := by
  match xs with
  | [] => exact iff_of_true Nat.cast_zero (List.forall_mem_nil _)
  | [_] => exact iff_of_true Nat.cast_zero (by simp)
  | x :: y :: rest =>
      have two : 2 ≤ (x :: y :: rest).length := by simp
      have positive : (0 : ℝ) < (x :: y :: rest).length - 1 := by
        have more : (2 : ℝ) ≤ (x :: y :: rest).length := by exact_mod_cast two
        linarith
      change √(variance (x :: y :: rest)) = 0 ↔ _
      rw [variance_eq two, Real.sqrt_eq_zero (div_nonneg (squared_deviations_nonneg _) positive.le),
        div_eq_zero_iff, or_iff_left positive.ne', squared_deviations_eq_zero_iff]

end Running

end Resemblance
