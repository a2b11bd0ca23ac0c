/-!
Character classes beyond the first 128 characters, each given by the ranges of its code points in
increasing order. Membership is one search through the ranges.
-/

namespace Resemblance.Text

/-- Inclusive ranges of code points, in increasing order and apart from each other. -/
abbrev Ranges := List (Nat × Nat)

namespace Ranges

def contains (ranges : Ranges) (c : Char) : Bool :=
  ranges.any fun range => range.1 ≤ c.toNat && c.toNat ≤ range.2

theorem contains_iff (ranges : Ranges) (c : Char) :
    ranges.contains c = true ↔
      ∃ range ∈ ranges, range.1 ≤ c.toNat ∧ c.toNat ≤ range.2 := by
  simp [contains]

end Ranges
end Resemblance.Text
