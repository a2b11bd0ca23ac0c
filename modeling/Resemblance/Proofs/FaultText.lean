import Resemblance.Proofs.NumberText
import Resemblance.Validity

/-!
What the description of a fault says. Read from its end it gives back the column, the line and what
is missing, also where the name of a missing token has digits or words of the description in it; and
the place tells at which byte of the source the fault begins.
-/

namespace Resemblance

/-- A number at the end of a text, behind something else than a digit, is told by the text. -/
theorem append_digits_inj {front front' : List Char} {n m : Nat} (ends : EndsDigits front.reverse)
    (ends' : EndsDigits front'.reverse)
    (same : front ++ Decimal.digitChars n = front' ++ Decimal.digitChars m) :
    front = front' ∧ n = m := by
  have digit (k : Nat) : ∀ c ∈ (Decimal.digitChars k).reverse, c.isDigit = true :=
    fun _ member => isDigit_of_mem_digitChars (List.mem_reverse.1 member)
  have turned := congrArg List.reverse same
  rw [List.reverse_append, List.reverse_append] at turned
  have digits := takeWhile_digits (digit n) ends
  rw [turned, takeWhile_digits (digit m) ends', List.reverse_inj] at digits
  have number := congrArg Json.natOfDigits digits
  rw [Json.natOfDigits_digitChars, Json.natOfDigits_digitChars] at number
  exact ⟨List.append_cancel_right (digits ▸ same), number.symm⟩

namespace Fault

variable {fault other : Fault}

def subject (fault : Fault) : List Char :=
  if fault.missing then "missing ".toList ++ fault.kind.toList else "syntax error".toList

theorem describe_text (fault : Fault) :
    fault.describe.toList =
      (fault.subject ++ " at line ".toList ++ Decimal.digitChars fault.place.line ++
        ", column ".toList) ++ Decimal.digitChars fault.place.column := by
  cases missing : fault.missing <;> simp [describe, subject, missing, toString, Decimal.digitChars]

theorem describe_words (fault : Fault) : fault.describe =
    (if fault.missing then "missing " ++ fault.kind else "syntax error") ++
      " at line " ++ toString fault.place.line ++ ", column " ++ toString fault.place.column := by
  rw [← String.toList_inj, describe_text]
  cases missing : fault.missing <;>
    simp [subject, missing, Decimal.digitChars]

theorem subject_eq_iff : fault.subject = other.subject ↔
    fault.missing = other.missing ∧ (fault.missing = true → fault.kind = other.kind) := by
  cases missing : fault.missing <;> cases missing' : other.missing <;>
    simp [subject, missing, missing', String.toList_inj]

theorem place_of_describe (same : fault.describe = other.describe) :
    fault.subject = other.subject ∧ fault.place = other.place := by
  have letters := congrArg String.toList same
  rw [describe_text, describe_text] at letters
  obtain ⟨letters, column⟩ :=
    append_digits_inj (by simp [EndsDigits]) (by simp [EndsDigits]) letters
  obtain ⟨letters, line⟩ := append_digits_inj (by simp [EndsDigits]) (by simp [EndsDigits])
    (List.append_cancel_right letters)
  refine ⟨List.append_cancel_right letters, ?_⟩
  show Text.Place.mk fault.place.line fault.place.column = ⟨other.place.line, other.place.column⟩
  rw [line, column]

/-- A description names the place, whether a token is missing, and which; and nothing else. -/
theorem describe_eq_iff : fault.describe = other.describe ↔
    fault.place = other.place ∧ fault.missing = other.missing ∧
      (fault.missing = true → fault.kind = other.kind) := by
  constructor
  · intro same
    obtain ⟨subject, place⟩ := place_of_describe same
    exact ⟨place, subject_eq_iff.1 subject⟩
  · rintro ⟨place, named⟩
    rw [← String.toList_inj, describe_text, describe_text, subject_eq_iff.2 named, place]

end Fault

namespace Text

theorem line_bytes_append (before : List UInt8) {more : List UInt8} (unbroken : 10 ∉ more) :
    ((before ++ more).reverse.takeWhile (· != 10)).length =
      (before.reverse.takeWhile (· != 10)).length + more.length := by
  have kept : ∀ byte ∈ more.reverse, (byte != 10) = true := fun byte member =>
    bne_iff_ne.2 fun same => unbroken (same ▸ List.mem_reverse.1 member)
  rw [List.reverse_append, List.takeWhile_append_of_pos kept, List.length_append,
    List.length_reverse, Nat.add_comm]

theorem length_toList_loop (bytes : ByteArray) (index : Nat) (read : List UInt8) :
    (ByteArray.toList.loop bytes index read).length = bytes.size - index + read.length := by
  fun_induction ByteArray.toList.loop bytes index read with
  | case1 index read more ih =>
      rw [ih, List.length_cons]
      omega
  | case2 index read done =>
      rw [List.length_reverse]
      omega

theorem length_bytes (text : String) : text.toUTF8.toList.length = text.utf8ByteSize :=
  length_toList_loop text.toUTF8 0 []

theorem offset_eq_of_place {text : String} {offset other : Nat} (after : offset ≤ other)
    (inside : other ≤ text.utf8ByteSize) (same : placeAt offset text = placeAt other text) :
    offset = other := by
  obtain ⟨line, column⟩ := Place.mk.inj same
  rw [← length_bytes] at inside
  generalize text.toUTF8.toList = bytes at inside line column
  obtain ⟨width, rfl⟩ := Nat.exists_eq_add_of_le after
  rw [List.take_add] at line column
  have unbroken : 10 ∉ (bytes.drop offset).take width := by
    rw [← List.count_eq_zero]
    rw [List.count_append] at line
    omega
  rw [line_bytes_append _ unbroken, List.length_take, List.length_drop] at column
  omega

theorem place_at_inj {text : String} {offset other : Nat} (inside : offset ≤ text.utf8ByteSize)
    (inside' : other ≤ text.utf8ByteSize) :
    placeAt offset text = placeAt other text ↔ offset = other := by
  refine ⟨fun same => ?_, congrArg (placeAt · text)⟩
  rcases Nat.le_total offset other with after | before
  · exact offset_eq_of_place after inside' same
  · exact (offset_eq_of_place before inside same.symm).symm

end Text

/-- The descriptions of two nodes of a source are the same only for nodes that begin together and of
which both or none are missing; the description of a missing node also tells its kind. -/
theorem Fault.describe_node_iff {source : String} {node other : Node}
    (inside : node.start ≤ source.utf8ByteSize) (inside' : other.start ≤ source.utf8ByteSize) :
    (ofNode source node).describe = (ofNode source other).describe ↔
      node.start = other.start ∧ node.missing = other.missing ∧
        (node.missing = true → node.kind = other.kind) := by
  rw [describe_eq_iff]
  simp only [ofNode, Text.place_at_inj inside inside']

end Resemblance
