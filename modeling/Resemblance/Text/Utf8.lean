/-!
Bytes as text. Bytes that are no text are replaced: every longest beginning of a character that does
not go on as it should gives one replacement character, and so does every other byte that starts no
character.
-/

namespace Resemblance.Text

def replacement : Char := Char.ofNat 0xfffd

/-- What the first byte of a character says: how many bytes follow, and the range of the second
one. -/
structure Lead where
  following : Nat
  low : UInt8
  high : UInt8

def lead? (b : UInt8) : Option Lead :=
  if 0xc2 ≤ b && b ≤ 0xdf then some ⟨1, 0x80, 0xbf⟩
  else if b == 0xe0 then some ⟨2, 0xa0, 0xbf⟩
  else if b == 0xed then some ⟨2, 0x80, 0x9f⟩
  else if 0xe1 ≤ b && b ≤ 0xef then some ⟨2, 0x80, 0xbf⟩
  else if b == 0xf0 then some ⟨3, 0x90, 0xbf⟩
  else if b == 0xf4 then some ⟨3, 0x80, 0x8f⟩
  else if 0xf1 ≤ b && b ≤ 0xf3 then some ⟨3, 0x80, 0xbf⟩
  else none

def leadBits (b : UInt8) (following : Nat) : Nat :=
  b.toNat % Nat.pow 2 (6 - following)

/-- A character that is being read: the bits so far, and the bytes it still needs. -/
structure Unfinished where
  bits : Nat
  lead : Lead

def Unfinished.take (unfinished : Unfinished) (b : UInt8) : Option (Char ⊕ Unfinished) :=
  if unfinished.lead.low ≤ b && b ≤ unfinished.lead.high then
    let bits := unfinished.bits * 64 + b.toNat % 64
    if unfinished.lead.following ≤ 1 then some (.inl (Char.ofNat bits))
    else some (.inr ⟨bits, unfinished.lead.following - 1, 0x80, 0xbf⟩)
  else none

def startCharacter (b : UInt8) : Char ⊕ Unfinished :=
  if b < 0x80 then .inl (Char.ofNat b.toNat)
  else
    match lead? b with
    | some lead => .inr ⟨leadBits b lead.following, lead⟩
    | none => .inl replacement

/-- The characters of a list of bytes that may continue an unfinished character. -/
def decodeAfter : Option Unfinished → List UInt8 → List Char
  | none, [] => []
  | some _, [] => [replacement]
  | pending, b :: rest =>
      let start := fun (before : List Char) =>
        match startCharacter b with
        | .inl c => before ++ c :: decodeAfter none rest
        | .inr unfinished => before ++ decodeAfter (some unfinished) rest
      match pending with
      | none => start []
      | some unfinished =>
          match unfinished.take b with
          | some (.inl c) => c :: decodeAfter none rest
          | some (.inr unfinished) => decodeAfter (some unfinished) rest
          | none => start [replacement]

def toBytes (cs : List Char) : List UInt8 :=
  (String.ofList cs).toUTF8.toList

def ofBytes (bytes : ByteArray) : String :=
  match String.fromUTF8? bytes with
  | some text => text
  | none => String.ofList (decodeAfter none bytes.toList)

end Resemblance.Text
