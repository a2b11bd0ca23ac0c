import Resemblance.Overlap
import Resemblance.Proofs.Tally

/-!
The overlap of two sets does not depend on which of them comes first, and is full exactly for equal
sets.
-/

namespace Resemblance

/-- All that was counted is shared, and something was counted. -/
def Ratio.Full (ratio : Ratio) : Prop :=
  ratio.part = ratio.whole ∧ 0 < ratio.whole

namespace Overlap

theorem shared_le_left {α : Type} [BEq α] (a b : List α) : shared a b ≤ a.length :=
  List.length_filter_le _ _

variable {α : Type} [BEq α] [LawfulBEq α] {a b : List α}

theorem shared_comm (once : a.Nodup) (once' : b.Nodup) : shared a b = shared b a := by
  apply List.Perm.length_eq
  apply (List.perm_ext_iff_of_nodup (once.filter _) (once'.filter _)).2
  intro x
  simp only [List.mem_filter, List.contains_iff_mem]
  exact and_comm

theorem ratio_comm (once : a.Nodup) (once' : b.Nodup) : ratio a b = ratio b a := by
  rw [ratio_eq, ratio_eq, shared_comm once once', Bool.and_comm, Nat.add_comm a.length]

theorem shared_eq_length_iff : shared a b = a.length ↔ ∀ x ∈ a, x ∈ b := by
  rw [shared, List.length_filter_eq_length_iff]
  simp only [List.contains_iff_mem]

theorem ratio_full_iff (once : a.Nodup) (once' : b.Nodup) :
    (ratio a b).Full ↔ ∀ x, x ∈ a ↔ x ∈ b := by
  have left := shared_le_left a b
  have right := shared_le_left b a
  have swapped := shared_comm once once'
  constructor
  · intro full x
    rw [ratio_eq] at full
    split at full
    next empty =>
      simp only [Bool.and_eq_true, List.isEmpty_iff] at empty
      rw [empty.1, empty.2]
    next filled =>
      obtain ⟨equal, counted⟩ := full
      simp only at equal counted
      have allLeft := shared_eq_length_iff.1 (show shared a b = a.length by omega)
      have allRight := shared_eq_length_iff.1 (show shared b a = b.length by omega)
      exact ⟨allLeft x, allRight x⟩
  · intro same
    have allLeft := shared_eq_length_iff.2 fun x => (same x).1
    have allRight := shared_eq_length_iff.2 fun x => (same x).2
    rw [ratio_eq]
    split
    next empty => exact ⟨rfl, Nat.one_pos⟩
    next filled =>
      have counted : 0 < a.length := by
        apply Nat.pos_of_ne_zero
        intro none_left
        rw [List.length_eq_zero_iff] at none_left
        have none_right : b = [] := by
          apply List.eq_nil_iff_forall_not_mem.2
          intro x member
          have := (same x).2 member
          rw [none_left] at this
          exact List.not_mem_nil this
        exact filled (by rw [none_left, none_right]; rfl)
      refine ⟨?_, ?_⟩
      · show shared a b = a.length + b.length - shared a b
        omega
      · show 0 < a.length + b.length - shared a b
        omega

end Overlap
end Resemblance
