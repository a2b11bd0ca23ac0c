import Resemblance.Text.Ranges

/-!
White space: the White_Space property, and what trimming removes.
-/

namespace Resemblance.Text

/-- White space outside the first 128 characters. -/
def blankRanges : Ranges := [
  (0x85, 0x85), (0xa0, 0xa0), (0x1680, 0x1680), (0x2000, 0x200a), (0x2028, 0x2029),
  (0x202f, 0x202f), (0x205f, 0x205f), (0x3000, 0x3000)]

def isBlank (c : Char) : Bool :=
  if c.toNat < 0x80 then c == ' ' || (0x9 ≤ c.toNat && c.toNat ≤ 0xd) else blankRanges.contains c

def trim (cs : List Char) : List Char :=
  ((cs.dropWhile isBlank).reverse.dropWhile isBlank).reverse

def trimmed (text : String) : String :=
  String.ofList (trim text.toList)

def isAllBlank (cs : List Char) : Bool :=
  cs.all isBlank

end Resemblance.Text
