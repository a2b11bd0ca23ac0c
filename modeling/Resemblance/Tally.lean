/-!
Tallies: how often each thing of a list occurs, with the things in increasing order.
-/

namespace Resemblance

def distinct {α : Type} [BEq α] (le : α → α → Bool) (xs : List α) : List α :=
  xs.eraseDups.mergeSort le

def tally {α : Type} [BEq α] (le : α → α → Bool) (xs : List α) : List (α × Nat) :=
  (distinct le xs).map fun x => (x, xs.count x)

def sumOf : List Nat → Nat
  | [] => 0
  | n :: rest => n + sumOf rest

/-- Texts in the order of their code points, which is the order of their encoded bytes. -/
def textLe (a b : String) : Bool :=
  decide (a ≤ b)

def textsLe : List String → List String → Bool
  | [], _ => true
  | _ :: _, [] => false
  | a :: as, b :: bs => if a == b then textsLe as bs else textLe a b

end Resemblance
