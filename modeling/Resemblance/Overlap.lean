import Resemblance.Ratio

/-!
The overlap of two finite sets: the ratio of what they share to what either holds. Two empty sets
overlap fully, and an empty one overlaps with no other.
-/

namespace Resemblance.Overlap

def shared {α : Type} [BEq α] (a b : List α) : Nat :=
  (a.filter b.contains).length

def ratio {α : Type} [BEq α] (a b : List α) : Ratio :=
  if a.isEmpty && b.isEmpty then Ratio.one
  else if a.isEmpty || b.isEmpty then ⟨0, a.length + b.length⟩
  else ⟨shared a b, a.length + b.length - shared a b⟩

/-- An empty set is no case of its own: nothing is shared with it. -/
theorem ratio_eq {α : Type} [BEq α] (a b : List α) :
    ratio a b =
      if a.isEmpty && b.isEmpty then Ratio.one
      else ⟨shared a b, a.length + b.length - shared a b⟩ := by
  cases a with
  | nil =>
      cases b with
      | nil => rfl
      | cons y ys => rfl
  | cons x xs =>
      cases b with
      | nil =>
          have nothing : shared (x :: xs) [] = 0 := by
            rw [shared, List.filter_eq_nil_iff.2 (by simp)]
            rfl
          simp [ratio, nothing]
      | cons y ys => rfl

def ofLists {α : Type} [BEq α] (a b : List α) : Float :=
  (ratio a.eraseDups b.eraseDups).toFloat

end Resemblance.Overlap
