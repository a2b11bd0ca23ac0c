import Resemblance.Tally

/-!
Grams: the contiguous stretches of a fixed length in a token list, with their numbers of
occurrences.
-/

namespace Resemblance.Gram

/-- The stretches of `n` neighbouring elements, from left to right; there are none of length
zero. -/
def windows {α : Type} (n : Nat) : List α → List (List α)
  | [] => []
  | x :: xs =>
      if n = 0 ∨ xs.length + 1 < n then [] else (x :: xs).take n :: windows n xs

/-- Each gram of length `n` with its number of occurrences, in lexicographic order. -/
def table (n : Nat) (tokens : List String) : List (List String × Nat) :=
  tally textsLe (windows n tokens)

def total (n : Nat) (tokens : List String) : Nat :=
  (windows n tokens).length

/-- The number of grams of the candidate that the reference holds too, where a gram counts at most
as often as it occurs in either. -/
def matched (n : Nat) (reference candidate : List String) : Nat :=
  sumOf ((windows n candidate).eraseDups.map fun gram =>
    min ((windows n candidate).count gram) ((windows n reference).count gram))

end Resemblance.Gram
