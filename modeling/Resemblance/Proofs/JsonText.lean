import Mathlib.Data.List.DropRight
import Resemblance.Json.Write
import Resemblance.Proofs.NumberText

/-!
Written JSON values read back. Texts are the same again, numbers have the same sign and value, and
the members of objects stand in their order; nothing else is changed.
-/

namespace Resemblance.Json

open Decimal (EndsNumber)

theorem json_induction {holds : Json → Prop} (null : holds .null)
    (bool : ∀ value, holds (.bool value))
    (number : ∀ value, holds (.number value)) (text : ∀ value, holds (.text value))
    (array : ∀ items, (∀ item ∈ items, holds item) → holds (.array items))
    (object : ∀ members, (∀ member ∈ members, holds member.2) → holds (.object members)) :
    ∀ json, holds json
  | .null => null
  | .bool value => bool value
  | .number value => number value
  | .text value => text value
  | .array items =>
      array items fun item _ => json_induction null bool number text array object item
  | .object members =>
      object members fun member _ => json_induction null bool number text array object member.2
termination_by json => sizeOf json
decreasing_by
  · have := List.sizeOf_lt_of_mem ‹item ∈ items›
    simp
    omega
  · have := List.sizeOf_lt_of_mem ‹member ∈ members›
    obtain ⟨name, value⟩ := member
    simp at this ⊢
    omega

mutual

/-- A value as it is read back from its written form. -/
def seen : Json → Json
  | .number value => .number value.seen
  | .array items => .array (seenItems items)
  | .object members => .object (seenMembers members)
  | json => json

def seenItems : List Json → List Json
  | [] => []
  | item :: rest => seen item :: seenItems rest

def seenMembers : List (Option String × Json) → List (Option String × Json)
  | [] => []
  | (name, value) :: rest => (name, seen value) :: seenMembers rest

end

mutual

/-- Whether every text in a value is one, and every whole number stands without a power of ten. -/
def Writable : Json → Prop
  | .number value => value.Plain
  | .text value => value.isSome = true
  | .array items => WritableItems items
  | .object members => WritableMembers members
  | _ => True

def WritableItems : List Json → Prop
  | [] => True
  | item :: rest => Writable item ∧ WritableItems rest

def WritableMembers : List (Option String × Json) → Prop
  | [] => True
  | (name, value) :: rest => name.isSome = true ∧ Writable value ∧ WritableMembers rest

end

section Texts

variable {rest : List Char}

theorem hex_value_hex_digit : ∀ n < 16, hexValue? (hexDigit n) = some n := by decide

theorem read_units_escape {c escaped : Char} (known : escape? c = some escaped) (other : c ≠ 'u') :
    readUnits ('\\' :: c :: rest) =
      (readUnits rest).map fun found => (escaped.toNat :: found.1, found.2) := by
  rw [readUnits]
  · rw [known]
    cases readUnits rest with
    | none => rfl
    | some found => rfl
  · rintro a b c d rest equal
    simp [other] at equal

theorem read_units_plain {c : Char} (quote : c ≠ '"') (slash : c ≠ '\\')
    (visible : ¬ c.toNat < 32) :
    readUnits (c :: rest) = (readUnits rest).map fun found => (c.toNat :: found.1, found.2) := by
  rw [readUnits]
  · have usable : (c == '\\' || c.toNat < 32) = false := by simp [slash, Nat.not_lt.1 visible]
    rw [usable]
    cases readUnits rest with
    | none => rfl
    | some found => rfl
  · exact quote
  · rintro a b c d rest' equal
    exact absurd equal slash
  · rintro c' rest' equal
    exact absurd equal slash

/-- Each character is read as one unit, however it is escaped. -/
theorem read_units_char (c : Char) (rest : List Char) :
    readUnits (writeChar c ++ rest) =
      (readUnits rest).map fun found => (c.toNat :: found.1, found.2) := by
  have code (n : Nat) (equal : c.toNat = n) : c = Char.ofNat n := by rw [← equal, Char.ofNat_toNat]
  rw [writeChar]
  split
  · subst_vars
    exact read_units_escape rfl (by decide)
  split
  · subst_vars
    exact read_units_escape rfl (by decide)
  split
  · rw [code 8 ‹_›]
    exact read_units_escape rfl (by decide)
  split
  · rw [code 12 ‹_›]
    exact read_units_escape rfl (by decide)
  split
  · subst_vars
    exact read_units_escape rfl (by decide)
  split
  · subst_vars
    exact read_units_escape rfl (by decide)
  split
  · subst_vars
    exact read_units_escape rfl (by decide)
  split
  · rename_i control
    have high := hex_value_hex_digit (c.toNat / 16) (by omega)
    have low := hex_value_hex_digit (c.toNat % 16) (by omega)
    have zero : hexValue? '0' = some 0 := by decide
    have unit : readHex4 ['0', '0', hexDigit (c.toNat / 16), hexDigit (c.toNat % 16)] =
        some (c.toNat, []) := by
      simp only [readHex4, high, low, zero, Option.bind_eq_bind, Option.bind_some]
      simp only [Option.some.injEq, Prod.mk.injEq, and_true]
      omega
    simp only [List.cons_append, List.nil_append, readUnits, unit]
    cases readUnits rest with
    | none => rfl
    | some found => rfl
  · exact read_units_plain ‹_› ‹_› ‹_›

theorem read_units_text (cs rest : List Char) :
    readUnits (cs.flatMap writeChar ++ '"' :: rest) = some (cs.map Char.toNat, rest) := by
  induction cs with
  | nil => rfl
  | cons c cs ih => rw [List.flatMap_cons, List.append_assoc, read_units_char, ih]; rfl

theorem text_of_units (cs : List Char) : textOfUnits (cs.map Char.toNat) = some cs := by
  induction cs with
  | nil => rfl
  | cons c cs ih =>
      have valid : c.toNat < 0xd800 ∨ 0xdfff < c.toNat ∧ c.toNat < 0x110000 := c.valid
      rw [List.map_cons, textOfUnits.eq_def]
      simp only
      rw [if_neg (by omega), if_neg (by omega), ih, Char.ofNat_toNat]
      rfl

theorem read_text (text : String) (rest : List Char) :
    readText (text.toList.flatMap writeChar ++ '"' :: rest) = some (some text, rest) := by
  simp only [readText, read_units_text, Option.map_some, text_of_units, String.ofList_toList]

end Texts

section Values

variable {rest text : List Char} {fuel level : Nat}

def isBlank (c : Char) : Bool :=
  c == ' ' || c == '\n' || c == '\t' || c == '\r'

def Solid (text : List Char) : Prop :=
  ∀ c ∈ text.head?, isBlank c = false

/-- What begins as a value does: neither with a blank nor with the end of an array. -/
def Begun (text : List Char) : Prop :=
  ∃ c ∈ text.head?, isBlank c = false ∧ c ≠ ']'

theorem Begun.append (begun : Begun text) (rest : List Char) : Begun (text ++ rest) := by
  obtain ⟨c, here, first⟩ := begun
  cases text with
  | nil => simp at here
  | cons c' text => exact ⟨c, here, first⟩

theorem Begun.solid (begun : Begun text) : Solid text := by
  obtain ⟨c, here, first⟩ := begun
  intro c' here'
  obtain rfl := Option.some.inj (here.symm.trans here')
  exact first.1

theorem skip_blanks_of_solid (solid : Solid text) : skipBlanks text = text := by
  cases text with
  | nil => rfl
  | cons c text => exact List.dropWhile_cons_of_neg (Bool.eq_false_iff.1 (solid c rfl))

theorem skip_blanks_newline (level : Nat) (solid : Solid text) :
    skipBlanks (newline level ++ text) = text := by
  have blanks : ∀ c ∈ newline level, isBlank c = true := by
    intro c member
    rcases List.mem_cons.1 member with rfl | member
    · rfl
    · rw [List.eq_of_mem_replicate member]
      rfl
  exact (List.dropWhile_append_of_pos blanks).trans (skip_blanks_of_solid solid)

theorem read_value_newline (fuel level : Nat) (solid : Solid text) :
    readValue fuel (newline level ++ text) = readValue fuel text := by
  cases fuel with
  | zero => rw [readValue, readValue]
  | succ fuel =>
      rw [readValue, readValue, skip_blanks_newline level solid, skip_blanks_of_solid solid]

def joinLines (level : Nat) (parts : List (List Char)) : List Char :=
  joinComma (parts.map (newline level ++ ·))

theorem join_lines_last (level : Nat) (part : List Char) :
    joinLines level [part] = newline level ++ part :=
  rfl

theorem join_lines_next (level : Nat) (part next : List Char) (more : List (List Char)) :
    joinLines level (part :: next :: more) =
      newline level ++ (part ++ ',' :: joinLines level (next :: more)) :=
  List.append_assoc _ _ _

theorem block_cons (level : Nat) (opening closing : Char) (part : List Char)
    (more : List (List Char)) :
    block level opening closing (part :: more) =
      opening :: (joinLines (level + 1) (part :: more) ++ (newline level ++ [closing])) := by
  rw [← List.append_assoc]
  rfl

theorem length_newline (level : Nat) : (newline level).length = 2 * level + 1 := by
  simp [newline]

theorem join_lines_head (level : Nat) (part : List Char) (more : List (List Char))
    (rest : List Char) :
    ∃ text, joinLines level (part :: more) ++ rest = newline level ++ (part ++ text) := by
  cases more with
  | nil => exact ⟨rest, by rw [join_lines_last, List.append_assoc]⟩
  | cons next more =>
      exact ⟨',' :: joinLines level (next :: more) ++ rest,
        by rw [join_lines_next, List.append_assoc, List.append_assoc]⟩

theorem skip_blanks_twice (text : List Char) : skipBlanks (skipBlanks text) = skipBlanks text :=
  List.dropWhile_idempotent _ _

theorem read_value_skipped (fuel : Nat) (text : List Char) :
    readValue fuel (skipBlanks text) = readValue fuel text := by
  cases fuel with
  | zero => rw [readValue, readValue]
  | succ fuel => rw [readValue, readValue, skip_blanks_twice]

theorem read_items_skipped (fuel : Nat) (text : List Char) :
    readItems fuel (skipBlanks text) = readItems fuel text := by
  cases fuel with
  | zero => rw [readItems, readItems]
  | succ fuel => rw [readItems, readItems, read_value_skipped]

theorem read_members_skipped (fuel : Nat) (text : List Char) :
    readMembers fuel (skipBlanks text) = readMembers fuel text := by
  cases fuel with
  | zero => rw [readMembers, readMembers]
  | succ fuel => rw [readMembers, readMembers, skip_blanks_twice]

theorem read_array (begun : Begun (skipBlanks text)) :
    readValue (fuel + 1) ('[' :: text) =
      (readItems fuel text).map fun found => (.array found.1, found.2) := by
  rw [readValue, skip_blanks_of_solid (by simp [Solid, isBlank])]
  simp only
  obtain ⟨c, here, -, other⟩ := begun
  split
  · rename_i equal
    rw [equal] at here
    exact absurd (Option.some.inj here).symm other
  · rw [read_items_skipped]

theorem read_object (quoted : (skipBlanks text).head? = some '"') :
    readValue (fuel + 1) ('\x7b' :: text) =
      (readMembers fuel text).map fun found => (.object found.1, found.2) := by
  rw [readValue, skip_blanks_of_solid (by simp [Solid, isBlank])]
  simp only
  split
  · rename_i equal
    simp [equal] at quoted
  · rw [read_members_skipped]

theorem ne_of_number {c c' : Char} (first : c = '-' ∨ c.isDigit = true) (sign : c' ≠ '-')
    (notDigit : c'.isDigit = false) : c ≠ c' := by
  rintro rfl
  simp [sign, notDigit] at first

theorem begun_of_number {c : Char} (first : c = '-' ∨ c.isDigit = true) : Begun (c :: text) := by
  have other (c' : Char) (sign : c' ≠ '-') (notDigit : c'.isDigit = false) : (c == c') = false :=
    beq_eq_false_iff_ne.2 (ne_of_number first sign notDigit)
  refine ⟨c, rfl, ?_, ne_of_number first (by decide) rfl⟩
  rw [isBlank, other ' ' (by decide) rfl, other '\n' (by decide) rfl, other '\t' (by decide) rfl,
    other '\r' (by decide) rfl]
  rfl

theorem read_value_number (head : ∃ c ∈ text.head?, c = '-' ∨ c.isDigit = true) :
    readValue (fuel + 1) text =
      (readNumber text).map fun found => (.number found.1, found.2) := by
  obtain ⟨c', here, first⟩ := head
  cases text with
  | nil => simp at here
  | cons c text =>
      obtain rfl := Option.some.inj here
      have apart {tail tail' : List Char} (c' : Char) (sign : c' ≠ '-')
          (notDigit : c'.isDigit = false) :
          c :: tail ≠ c' :: tail' := fun equal =>
        ne_of_number first sign notDigit (List.cons.inj equal).1
      rw [readValue, skip_blanks_of_solid (begun_of_number first).solid]
      split <;> rename_i equal
      · simp at equal
      · exact absurd equal (apart _ (by decide) rfl)
      · exact absurd equal (apart _ (by decide) rfl)
      · exact absurd equal (apart _ (by decide) rfl)
      · exact absurd equal (apart _ (by decide) rfl)
      · exact absurd equal (apart _ (by decide) rfl)
      · exact absurd equal (apart _ (by decide) rfl)
      · rfl

theorem begun_write_level {json : Json} (writable : json.Writable) (level : Nat) :
    Begun (json.writeLevel level) := by
  cases json with
  | null => exact ⟨'n', rfl, rfl, by decide⟩
  | bool value =>
      cases value with
      | true => exact ⟨'t', rfl, rfl, by decide⟩
      | false => exact ⟨'f', rfl, rfl, by decide⟩
  | text value => exact ⟨'"', rfl, rfl, by decide⟩
  | number value =>
      have read := (JsonNumber.reads_seen _ writable).read [] (by simp [EndsNumber])
      rw [List.append_nil] at read
      obtain ⟨c, here, first⟩ := JsonNumber.read_number_head read
      rw [writeLevel]
      cases text : value.write with
      | nil => simp [text] at here
      | cons c' rest =>
          rw [text] at here
          obtain rfl := Option.some.inj here
          exact begun_of_number first
  | array items =>
      rw [writeLevel, block.eq_def]
      split
      · exact ⟨'[', rfl, rfl, by decide⟩
      · exact ⟨'[', rfl, rfl, by decide⟩
  | object members =>
      rw [writeLevel, block.eq_def]
      split
      · exact ⟨'\x7b', rfl, rfl, by decide⟩
      · exact ⟨'\x7b', rfl, rfl, by decide⟩

/-- What is shown of each value: it reads back with as much fuel as its text is long. -/
def ReadsBack (json : Json) : Prop :=
  ∀ level fuel rest, (json.writeLevel level).length ≤ fuel → EndsNumber rest →
    readValue fuel (json.writeLevel level ++ rest) = some (json.seen, rest)

theorem ends_of_newline (level : Nat) (rest : List Char) : EndsNumber (newline level ++ rest) := by
  simp [EndsNumber, newline]

theorem ends_of_comma (rest : List Char) : EndsNumber (',' :: rest) := by
  simp [EndsNumber]

theorem read_items_level {item : Json} {more : List Json} (writable : WritableItems (item :: more))
    (each : ∀ other ∈ item :: more, other.Writable → ReadsBack other)
    (enough : (joinLines level (writeLevelItems level (item :: more))).length ≤ fuel)
    (outer : Nat) (rest : List Char) :
    readItems fuel (joinLines level (writeLevelItems level (item :: more)) ++
      (newline outer ++ ']' :: rest)) = some (seenItems (item :: more), rest) := by
  induction more generalizing item fuel with
  | nil =>
      have read := each item List.mem_cons_self writable.1
      have begun := begun_write_level writable.1 level
      simp only [writeLevelItems, join_lines_last, List.length_append, length_newline] at enough ⊢
      cases fuel with
      | zero => omega
      | succ fuel =>
          rw [List.append_assoc, readItems, read_value_newline fuel level (begun.append _).solid,
            read level fuel _ (by omega) (ends_of_newline _ _)]
          simp only
          rw [skip_blanks_newline outer (by simp [Solid, isBlank])]
          rfl
  | cons next more ih =>
      have read := each item List.mem_cons_self writable.1
      have begun := begun_write_level writable.1 level
      have others (fuel : Nat) := @ih fuel next
      simp only [writeLevelItems, join_lines_next, List.length_append, length_newline,
        List.length_cons] at enough others ⊢
      cases fuel with
      | zero => omega
      | succ fuel =>
          rw [List.append_assoc, List.append_assoc, List.cons_append, readItems,
            read_value_newline fuel level (begun.append _).solid,
            read level fuel _ (by omega) (ends_of_comma _)]
          simp only
          rw [skip_blanks_of_solid (by simp [Solid, isBlank])]
          simp only
          rw [others fuel writable.2 (fun other member => each other (.tail _ member)) (by omega)]
          rfl

theorem read_value_space (fuel : Nat) (text : List Char) :
    readValue fuel (' ' :: text) = readValue fuel text := by
  cases fuel with
  | zero => rw [readValue, readValue]
  | succ fuel =>
      have skipped : skipBlanks (' ' :: text) = skipBlanks text := rfl
      rw [readValue, readValue, skipped]

theorem read_member {value : Json} (name : String) (writable : value.Writable)
    (read : ReadsBack value)
    (enough : (value.writeLevel level).length ≤ fuel) (ends : EndsNumber rest) :
    readMembers (fuel + 1) (newline level ++
        (writeText name ++ ':' :: ' ' :: value.writeLevel level ++ rest)) =
      match skipBlanks rest with
      | '\x7d' :: rest => some ([(some name, value.seen)], rest)
      | ',' :: rest =>
          (readMembers fuel rest).map fun found => ((some name, value.seen) :: found.1, found.2)
      | _ => none := by
  have begun := begun_write_level writable level
  rw [readMembers, writeText]
  simp only [List.cons_append, List.append_assoc]
  rw [skip_blanks_newline level (by simp [Solid, isBlank])]
  simp only [List.nil_append]
  rw [read_text]
  simp only
  rw [skip_blanks_of_solid (by simp [Solid, isBlank])]
  simp only
  have found : readValue fuel (' ' :: (value.writeLevel level ++ rest)) =
      some (value.seen, rest) := by
    rw [read_value_space, read level fuel rest enough ends]
  exact found ▸ rfl

theorem read_members_level {member : Option String × Json} {more : List (Option String × Json)}
    (writable : WritableMembers (member :: more))
    (each : ∀ other ∈ member :: more, other.2.Writable → ReadsBack other.2)
    (enough : (joinLines level (writeLevelMembers level (member :: more))).length ≤ fuel)
    (outer : Nat) (rest : List Char) :
    readMembers fuel (joinLines level (writeLevelMembers level (member :: more)) ++
      (newline outer ++ '\x7d' :: rest)) = some (seenMembers (member :: more), rest) := by
  induction more generalizing member fuel with
  | nil =>
      obtain ⟨name, value⟩ := member
      obtain ⟨named, own, -⟩ := writable
      obtain ⟨text, rfl⟩ := Option.isSome_iff_exists.1 named
      have read := each _ List.mem_cons_self own
      simp only [writeLevelMembers, join_lines_last, Option.getD_some, List.length_append,
        length_newline, List.length_cons] at enough ⊢
      cases fuel with
      | zero => omega
      | succ fuel =>
          rw [List.append_assoc, read_member text own read (by omega) (ends_of_newline _ _),
            skip_blanks_newline outer (by simp [Solid, isBlank])]
          rfl
  | cons next more ih =>
      obtain ⟨name, value⟩ := member
      obtain ⟨named, own, other⟩ := writable
      obtain ⟨text, rfl⟩ := Option.isSome_iff_exists.1 named
      have read := each _ List.mem_cons_self own
      have others (fuel : Nat) := @ih fuel next
      simp only [writeLevelMembers, join_lines_next, Option.getD_some, List.length_append,
        length_newline, List.length_cons] at enough others ⊢
      cases fuel with
      | zero => omega
      | succ fuel =>
          rw [List.append_assoc, List.append_assoc, List.cons_append (a := ','),
            read_member text own read (by omega) (ends_of_comma _),
            skip_blanks_of_solid (by simp [Solid, isBlank])]
          simp only
          rw [others fuel other (fun other member => each other (.tail _ member)) (by omega)]
          rfl

theorem Begun.length_pos (begun : Begun text) : 0 < text.length := by
  obtain ⟨c, here, -⟩ := begun
  cases text with
  | nil => simp at here
  | cons c' text => simp

/-- Since no text of a value is empty, there is fuel for its first step. -/
theorem reads_back_of_succ {json : Json} (writable : json.Writable)
    (read : ∀ level fuel rest, (json.writeLevel level).length ≤ fuel + 1 → EndsNumber rest →
      readValue (fuel + 1) (json.writeLevel level ++ rest) = some (json.seen, rest)) :
    ReadsBack json := by
  intro level fuel rest enough ends
  have some := (begun_write_level writable level).length_pos
  cases fuel with
  | zero => omega
  | succ fuel => exact read level fuel rest enough ends

theorem reads_back_number {value : JsonNumber} (plain : value.Plain) :
    ReadsBack (.number value) := by
  refine reads_back_of_succ plain fun level fuel rest enough ends => ?_
  have read := (value.reads_seen plain).read rest ends
  rw [writeLevel, read_value_number (JsonNumber.read_number_head read), read]
  rfl

theorem reads_back_text {value : Option String} (isText : value.isSome = true) :
    ReadsBack (.text value) := by
  obtain ⟨text, rfl⟩ := Option.isSome_iff_exists.1 isText
  refine reads_back_of_succ isText fun level fuel rest enough ends => ?_
  simp only [writeLevel, writeText, Option.getD_some, List.cons_append, List.append_assoc]
  rw [readValue, skip_blanks_of_solid (by simp [Solid, isBlank])]
  simp only [List.nil_append]
  rw [read_text]
  rfl

theorem reads_back_array {items : List Json} (writable : WritableItems items)
    (each : ∀ item ∈ items, item.Writable → ReadsBack item) : ReadsBack (.array items) := by
  refine reads_back_of_succ writable fun level fuel rest enough ends => ?_
  cases items with
  | nil => rfl
  | cons item more =>
      rw [writeLevel, writeLevelItems, block_cons, ← writeLevelItems] at enough ⊢
      rw [List.cons_append, List.append_assoc, List.append_assoc, List.singleton_append,
        read_array, read_items_level writable each (by simp at enough ⊢; omega)]
      · rfl
      · obtain ⟨text, first⟩ := join_lines_head (level + 1) (writeLevel (level + 1) item)
          (writeLevelItems (level + 1) more) (newline level ++ ']' :: rest)
        have begun := (begun_write_level writable.1 (level + 1)).append text
        rw [writeLevelItems, first, skip_blanks_newline _ begun.solid]
        exact begun

theorem reads_back_object {members : List (Option String × Json)}
    (writable : WritableMembers members)
    (each : ∀ member ∈ members, member.2.Writable → ReadsBack member.2) :
    ReadsBack (.object members) := by
  refine reads_back_of_succ writable fun level fuel rest enough ends => ?_
  cases members with
  | nil => rfl
  | cons member more =>
      obtain ⟨name, value⟩ := member
      rw [writeLevel, writeLevelMembers, block_cons, ← writeLevelMembers] at enough ⊢
      rw [List.cons_append, List.append_assoc, List.append_assoc, List.singleton_append,
        read_object, read_members_level writable each (by simp at enough ⊢; omega)]
      · rfl
      · obtain ⟨text, first⟩ := join_lines_head (level + 1)
          (writeText (name.getD "") ++ ':' :: ' ' :: writeLevel (level + 1) value)
          (writeLevelMembers (level + 1) more) (newline level ++ '\x7d' :: rest)
        rw [writeLevelMembers, first, skip_blanks_newline _ (by simp [Solid, isBlank, writeText])]
        rfl

theorem reads_back (json : Json) (writable : json.Writable) : ReadsBack json := by
  induction json using json_induction with
  | null => exact reads_back_of_succ writable fun _ _ _ _ _ => rfl
  | bool value => exact reads_back_of_succ writable fun _ _ _ _ _ => by cases value <;> rfl
  | number value => exact reads_back_number writable
  | text value => exact reads_back_text writable
  | array items each => exact reads_back_array writable each
  | object members each => exact reads_back_object writable each

/-- A pretty text reads back as the value it was written from. -/
theorem read_pretty {json : Json} (writable : json.Writable) :
    read json.pretty = some json.seen := by
  have found := reads_back json writable 0 (2 * (json.writeLevel 0).length + 2) [] (by omega)
    (by simp [EndsNumber])
  rw [List.append_nil] at found
  simp only [read, pretty, String.toList_ofList, found]
  rfl

end Values

end Resemblance.Json
