import Resemblance.Decimal.Shortest

/-!
Written forms of doubles. A form says from which exponents on the digits stand without an exponent,
whether whole numbers keep a decimal point, and how an exponent is written.
-/

namespace Resemblance.Decimal

/-- The decisions of a written form. -/
structure Form where
  tie : Tie
  /-- The powers of ten of the first digit, from the least to the greatest,
  that need no exponent. -/
  positional : Option (Int × Int)
  /-- Whole numbers end in a point and a zero. -/
  point : Bool
  /-- An exponent that is not negative has a plus sign. -/
  plus : Bool
  nan : String
  infinity : String
  negativeInfinity : String

def digitChars (n : Nat) : List Char :=
  Nat.toDigits 10 n

/-- The digits with the point after `whole` of them, filled up with zeros where needed. -/
def placePoint (digits : List Char) (whole : Int) (point : Bool) : List Char :=
  let tail := if point then ['.', '0'] else []
  if whole ≤ 0 then '0' :: '.' :: (List.replicate (-whole).toNat '0' ++ digits)
  else if digits.length ≤ whole.toNat then
    digits ++ List.replicate (whole.toNat - digits.length) '0' ++ tail
  else digits.take whole.toNat ++ '.' :: digits.drop whole.toNat

def scientific (digits : List Char) (exponent : Int) (plus : Bool) : List Char :=
  let mantissa :=
    match digits with
    | [] => []
    | [digit] => [digit]
    | digit :: rest => digit :: '.' :: rest
  let sign := if exponent < 0 then ['-'] else if plus then ['+'] else []
  mantissa ++ 'e' :: sign ++ digitChars exponent.natAbs

def layout (form : Form) (decimal : Decimal) : List Char :=
  if decimal.digits = 0 then placePoint ['0'] 1 form.point
  else
    let digits := digitChars decimal.digits
    let whole := (digits.length : Int) + decimal.exponent
    match form.positional with
    | none => placePoint digits whole form.point
    | some (least, greatest) =>
        if least ≤ whole - 1 && whole - 1 ≤ greatest then placePoint digits whole form.point
        else scientific digits (whole - 1) form.plus

def write (form : Form) (x : Float) : String :=
  if x.isNaN then form.nan
  else if x.isInf then if isNegative x then form.negativeInfinity else form.infinity
  else
    let magnitude := layout form (shortest form.tie (Binary.ofFloat x))
    String.ofList (if isNegative x then '-' :: magnitude else magnitude)

/-- Without an exponent, and without a point for whole numbers. -/
def plainForm : Form :=
  { tie := .up, positional := none, point := false, plus := false
    nan := "NaN", infinity := "inf", negativeInfinity := "-inf" }

def plain (x : Float) : String :=
  write plainForm x

/-- A double rounded to a number of decimal places; a half goes to the even neighbour. -/
def fixed (places : Nat) (x : Float) : String :=
  if x.isNaN then plainForm.nan
  else if x.isInf then if isNegative x then plainForm.negativeInfinity else plainForm.infinity
  else
    let binary := Binary.ofFloat x
    let scaled :=
      roundHalfEven (binary.mantissa * Nat.pow 2 binary.exponent.toNat * Nat.pow 10 places)
        (Nat.pow 2 (-binary.exponent).toNat)
    let digits := digitChars scaled
    let padded := List.replicate (places + 1 - digits.length) '0' ++ digits
    let magnitude :=
      if places = 0 then padded
      else padded.take (padded.length - places) ++ '.' :: padded.drop (padded.length - places)
    String.ofList (if isNegative x then '-' :: magnitude else magnitude)

end Resemblance.Decimal
