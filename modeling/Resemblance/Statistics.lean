import Resemblance.Scalar

/-!
Statistics of lists of numbers, each taken in a single pass from left to right.
-/

namespace Resemblance

variable {α : Type} [Scalar α]

open Scalar (ofNat zero)

structure RunningMean (α : Type) where
  count : Nat
  mean : α

def RunningMean.add (running : RunningMean α) (x : α) : RunningMean α :=
  let count := running.count + 1
  ⟨count, running.mean + (x - running.mean) / ofNat count⟩

def mean (xs : List α) : α :=
  (xs.foldl RunningMean.add ⟨0, zero⟩).mean

/-- The sum of the numbers seen so far, and of the squares of their deviations from the mean. -/
structure RunningSquares (α : Type) where
  count : Nat
  sum : α
  squares : α

def RunningSquares.add (running : RunningSquares α) (x : α) : RunningSquares α :=
  let count := running.count + 1
  let sum := running.sum + x
  let difference := ofNat count * x - sum
  ⟨count, sum,
    running.squares +
      difference * difference / (ofNat count * (ofNat count - ofNat 1))⟩

def variance : List α → α
  | x :: y :: rest =>
      let running := (y :: rest).foldl RunningSquares.add ⟨1, x, zero⟩
      running.squares / (ofNat running.count - ofNat 1)
  | _ => zero

def deviation : List α → α
  | x :: y :: rest => Scalar.sqrt (variance (x :: y :: rest))
  | _ => zero

/-- The means of two paired lists so far, and the sum of the products of their deviations. -/
structure RunningProducts (α : Type) where
  count : Nat
  left : α
  right : α
  products : α

def RunningProducts.add (running : RunningProducts α) (pair : α × α) : RunningProducts α :=
  let count := running.count + 1
  let left := running.left + (pair.1 - running.left) / ofNat count
  let right := running.right + (pair.2 - running.right) / ofNat count
  ⟨count, left, right,
    running.products + (pair.1 - left) * (pair.2 - running.right)⟩

def covariance (pairs : List (α × α)) : α :=
  let running := pairs.foldl RunningProducts.add ⟨0, zero, zero, zero⟩
  running.products / (ofNat running.count - ofNat 1)

/-- The correlation of two lists of one length, from minus one to one. It is zero where the product
of the deviations is zero or not finite, and for fewer than two pairs. -/
def correlation (xs ys : List α) : α :=
  if xs.length != ys.length || xs.length < 2 then zero
  else
    let scale := deviation xs * deviation ys
    if (Scalar.le scale zero && Scalar.le zero scale) || !Scalar.finite scale then zero
    else Scalar.clamp (zero - ofNat 1) (ofNat 1) (covariance (xs.zip ys) / scale)

/-- Of two numbers, the one that comes first in the order, where the second is taken if it cannot be
compared. -/
def choose (before : α → α → Bool) (chosen x : α) : α :=
  if before x chosen || !Scalar.comparable x then x else chosen

structure Statistics (α : Type) where
  count : Nat
  mean : α
  least : α
  greatest : α
  deviation : α

def Statistics.ofValues? : List α → Option (Statistics α)
  | [] => none
  | x :: rest =>
      some
        { count := rest.length + 1
          mean := Resemblance.mean (x :: rest)
          least := rest.foldl (choose Scalar.lt) x
          greatest := rest.foldl (choose fun a b => Scalar.lt b a) x
          deviation := Resemblance.deviation (x :: rest) }

end Resemblance
