import Mathlib
import Resemblance.Statistics

/-!
Statistics in exact arithmetic. The mean that is moved toward one number after the other is the sum
of the numbers over their count, so it lies between the least and the greatest of them.
-/

namespace Resemblance

noncomputable instance : Scalar ℝ where
  ofNat count := count
  sqrt := Real.sqrt
  lt a b := decide (a < b)
  le a b := decide (a ≤ b)
  finite _ := true

theorem comparable_real (x : ℝ) : Scalar.comparable x = true :=
  decide_eq_true le_rfl

section Mean

/-- The mean stands for a sum: times the count, it gives that sum. -/
def RunningMean.StandsFor (running : RunningMean ℝ) (sum : ℝ) : Prop :=
  running.count * running.mean = sum

variable {running : RunningMean ℝ} {sum : ℝ}

theorem RunningMean.StandsFor.add (stands : running.StandsFor sum) (x : ℝ) :
    (running.add x).StandsFor (sum + x) := by
  have positive : ((running.count + 1 : ℕ) : ℝ) ≠ 0 := Nat.cast_ne_zero.2 (Nat.succ_ne_zero _)
  change ((running.count + 1 : ℕ) : ℝ) *
    (running.mean + (x - running.mean) / ((running.count + 1 : ℕ) : ℝ)) = sum + x
  rw [mul_add, mul_div_cancel₀ _ positive, Nat.cast_succ, ← stands]
  ring

theorem RunningMean.StandsFor.follow (stands : running.StandsFor sum) (xs : List ℝ) :
    (xs.foldl RunningMean.add running).StandsFor (sum + xs.sum) := by
  induction xs generalizing running sum with
  | nil => rwa [List.sum_nil, add_zero]
  | cons x xs induction =>
      rw [List.sum_cons, ← add_assoc]
      exact induction (stands.add x)

theorem RunningMean.count_follow {α : Type} [Scalar α] (running : RunningMean α) (xs : List α) :
    (xs.foldl RunningMean.add running).count = running.count + xs.length := by
  induction xs generalizing running with
  | nil => rfl
  | cons x xs induction =>
      rw [List.foldl_cons, induction, List.length_cons, ← Nat.add_assoc, Nat.add_right_comm]
      rfl

theorem length_mul_mean (xs : List ℝ) : xs.length * mean xs = xs.sum := by
  have initial : (⟨0, Scalar.zero⟩ : RunningMean ℝ).StandsFor 0 := by
    rw [RunningMean.StandsFor, Nat.cast_zero, zero_mul]
  have stands := initial.follow xs
  rwa [RunningMean.StandsFor, RunningMean.count_follow, Nat.zero_add, zero_add] at stands

theorem mean_between {xs : List ℝ} {low high : ℝ} (some : xs ≠ [])
    (within : ∀ x ∈ xs, low ≤ x ∧ x ≤ high) : low ≤ mean xs ∧ mean xs ≤ high := by
  have positive : (0 : ℝ) < xs.length := Nat.cast_pos.2 (List.length_pos_of_ne_nil some)
  have below := List.card_nsmul_le_sum xs low fun x member => (within x member).1
  have above := List.sum_le_card_nsmul xs high fun x member => (within x member).2
  rw [nsmul_eq_mul, ← length_mul_mean] at below above
  exact ⟨le_of_mul_le_mul_left below positive, le_of_mul_le_mul_left above positive⟩

end Mean

section Extremes

theorem chosen_mem {α : Type} [Scalar α] (before : α → α → Bool) (first : α) (rest : List α) :
    rest.foldl (choose before) first ∈ first :: rest := by
  induction rest generalizing first with
  | nil => exact List.mem_cons_self
  | cons next rest induction =>
      have chosen := induction (choose before first next)
      rcases List.mem_cons.1 chosen with same | later
      · rw [List.foldl_cons, same, choose]
        split
        · exact List.mem_cons_of_mem _ List.mem_cons_self
        · exact List.mem_cons_self
      · exact List.mem_cons_of_mem _ (List.mem_cons_of_mem _ later)

variable {before : ℝ → ℝ → Bool} (precedes : ℝ → ℝ → Prop) [IsPreorder ℝ precedes]

theorem chosen_precedes
    (step : ∀ chosen x, precedes (choose before chosen x) chosen ∧
      precedes (choose before chosen x) x)
    (first : ℝ) (rest : List ℝ) :
    ∀ x ∈ first :: rest, precedes (rest.foldl (choose before) first) x := by
  induction rest generalizing first with
  | nil =>
      intro x member
      rw [List.mem_singleton.1 member]
      exact refl_of precedes first
  | cons next rest induction =>
      intro x member
      have chosen := induction (choose before first next)
      have preceded := chosen _ List.mem_cons_self
      rcases List.mem_cons.1 member with rfl | member
      · exact trans_of precedes preceded (step x next).1
      · rcases List.mem_cons.1 member with rfl | member
        · exact trans_of precedes preceded (step first x).2
        · exact chosen x (List.mem_cons_of_mem _ member)

theorem choose_lesser (chosen x : ℝ) :
    choose Scalar.lt chosen x ≤ chosen ∧ choose Scalar.lt chosen x ≤ x := by
  rw [choose, comparable_real, Bool.not_true, Bool.or_false]
  split
  next less => exact ⟨(of_decide_eq_true less).le, le_rfl⟩
  next not_less => exact ⟨le_rfl, not_lt.1 fun less => not_less (decide_eq_true less)⟩

theorem choose_greater (chosen x : ℝ) :
    choose (fun a b => Scalar.lt b a) chosen x ≥ chosen ∧
    choose (fun a b => Scalar.lt b a) chosen x ≥ x := by
  rw [choose, comparable_real, Bool.not_true, Bool.or_false]
  split
  next greater => exact ⟨(of_decide_eq_true greater).le, le_rfl⟩
  next not_greater => exact ⟨le_rfl, not_lt.1 fun greater => not_greater (decide_eq_true greater)⟩

end Extremes

section Statistics

variable {α : Type} [Scalar α]

theorem Statistics.of_values_eq_none_iff {values : List α} : ofValues? values = none ↔
    values = [] := by
  cases values <;> simp [ofValues?]

theorem Statistics.count_eq {values : List α} {statistics : Statistics α}
    (found : ofValues? values = some statistics) : statistics.count = values.length := by
  cases values with
  | nil => cases found
  | cons first rest => exact Option.some.inj found ▸ rfl

theorem Statistics.mean_eq {values : List α} {statistics : Statistics α}
    (found : ofValues? values = some statistics) : statistics.mean = Resemblance.mean values := by
  cases values with
  | nil => cases found
  | cons first rest => exact Option.some.inj found ▸ rfl

variable {values : List ℝ} {statistics : Statistics ℝ}

theorem Statistics.extremes (found : ofValues? values = some statistics) :
    IsLeast { x | x ∈ values } statistics.least ∧
    IsGreatest { x | x ∈ values } statistics.greatest := by
  cases values with
  | nil => cases found
  | cons first rest =>
      obtain rfl := Option.some.inj found
      exact ⟨⟨chosen_mem _ first rest, chosen_precedes (· ≤ ·) choose_lesser first rest⟩,
        ⟨chosen_mem _ first rest, chosen_precedes (· ≥ ·) choose_greater first rest⟩⟩

theorem Statistics.mean_eq_sum_div (found : ofValues? values = some statistics) :
    statistics.mean = values.sum / values.length := by
  have positive : (values.length : ℝ) ≠ 0 := by
    rw [Nat.cast_ne_zero, ne_eq, List.length_eq_zero_iff, ← of_values_eq_none_iff, found]
    exact Option.some_ne_none statistics
  rw [eq_div_iff positive, mean_eq found, mul_comm]
  exact length_mul_mean values

theorem Statistics.ordered (found : ofValues? values = some statistics) :
    statistics.least ≤ statistics.mean ∧ statistics.mean ≤ statistics.greatest := by
  obtain ⟨least, greatest⟩ := extremes found
  rw [mean_eq found]
  apply mean_between
  · rintro rfl
    cases found
  · exact fun x member => ⟨least.2 member, greatest.2 member⟩

end Statistics
end Resemblance
