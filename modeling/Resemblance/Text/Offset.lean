/-!
Byte offsets into a text. Offsets count the bytes of the encoded text; the characters between two
offsets are those that begin there.
-/

namespace Resemblance.Text

/-- Each character with the offset at which it begins, where the first begins at `start`. -/
def placed (start : Nat) : List Char → List (Nat × Char)
  | [] => []
  | c :: rest => (start, c) :: placed (start + c.utf8Size) rest

def select (keep : Nat → Bool) (cs : List Char) : List Char :=
  ((placed 0 cs).filter fun entry => keep entry.1).map Prod.snd

def slice (start stop : Nat) (cs : List Char) : List Char :=
  select (fun offset => start ≤ offset && offset < stop) cs

/-- A place in a text: the line, and the bytes from its beginning, both counted from one. -/
structure Place where
  line : Nat
  column : Nat
  deriving DecidableEq, Repr

def placeAt (offset : Nat) (text : String) : Place :=
  let before := text.toUTF8.toList.take offset
  { line := before.count 10 + 1
    column := (before.reverse.takeWhile (· != 10)).length + 1 }

end Resemblance.Text
