/-!
The numbers that scores are made of. What is computed by sums, quotients and square roots is written
once for all of them: the program runs on doubles, and its laws can be stated of exact numbers.
-/

namespace Resemblance

/-- Numbers that can be added, multiplied, divided, compared, and have square roots. -/
class Scalar (α : Type) extends Add α, Sub α, Mul α, Div α where
  ofNat : Nat → α
  sqrt : α → α
  lt : α → α → Bool
  le : α → α → Bool
  /-- Whether the number is neither infinite nor the result of an undefined operation. -/
  finite : α → Bool

instance : Scalar Float where
  ofNat := Float.ofNat
  sqrt := Float.sqrt
  lt a b := a < b
  le a b := a ≤ b
  finite := Float.isFinite

namespace Scalar

variable {α : Type} [Scalar α]

def zero : α := ofNat 0

def one : α := ofNat 1

/-- Whether a number equals itself. -/
def comparable (x : α) : Bool :=
  le x x

/-- The lesser of two numbers; what cannot be compared gives way to the bound. -/
def atMost (bound x : α) : α :=
  if lt x bound then x else bound

/-- The number held within two bounds; what cannot be compared stays as it is. -/
def clamp (low high x : α) : α :=
  if lt x low then low else if lt high x then high else x

end Scalar

def clampUnit {α : Type} [Scalar α] (x : α) : α :=
  Scalar.clamp Scalar.zero Scalar.one x

end Resemblance
