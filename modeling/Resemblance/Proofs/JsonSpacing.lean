import Resemblance.Proofs.JsonLexemes

/-!
Insignificant white space in JSON texts. What is read from a text depends on its lexemes alone, so
blanks may be added and left out wherever they do not cut or join a run.
-/

namespace Resemblance.Json

section Values

variable {α : Type} {text text' rest more : List Char} {fuel : Nat}

/-- What was read, with a rest that has the same lexemes as another and at most a certain length. -/
def Yields (found : α) (rest : List Char) (length : Nat)
    (outcome : Option (α × List Char)) : Prop :=
  ∃ rest', outcome = some (found, rest') ∧ Respaced rest rest' ∧ rest'.length ≤ length

theorem Yields.map {β : Type} {found : α} {length : Nat} {outcome : Option (α × List Char)}
    (build : α → β) (yields : Yields found rest length outcome) :
    Yields (build found) rest length (outcome.map fun found => (build found.1, found.2)) := by
  obtain ⟨rest', rfl, same, shorter⟩ := yields
  exact ⟨rest', rfl, same, shorter⟩

theorem Yields.weaken {found : α} {length length' : Nat} {outcome : Option (α × List Char)}
    (yields : Yields found rest length outcome) (le : length ≤ length') :
    Yields found rest length' outcome := by
  obtain ⟨rest', read, same, shorter⟩ := yields
  exact ⟨rest', read, same, shorter.trans le⟩

theorem Local.yields {read : List Char → Option (α × List Char)} {found : α} (reader : Local read)
    (aligned : Aligned text text') (reads : read text = some (found, rest)) :
    Yields found rest text'.length (read text') := by
  obtain ⟨rest', read', after, shorter⟩ := reader aligned reads
  exact ⟨rest', read', after.respaced, shorter⟩

/-- A reader that depends on lexemes only. Where it succeeds on one text, it succeeds on every other
of the same lexemes, with as much fuel as the length of that other text asks for. -/
def Regardless (extra : Nat) (read : Nat → List Char → Option (α × List Char))
    (fuel : Nat) : Prop :=
  ∀ ⦃text text' rest : List Char⦄ ⦃found : α⦄ ⦃fuel' : Nat⦄, Respaced text text' →
    read fuel text = some (found, rest) → 2 * text'.length + extra ≤ fuel' →
      Yields found rest text'.length (read fuel' text')

theorem length_of_skipped {c : Char} (here : skipBlanks text = c :: rest) :
    rest.length + 1 ≤ text.length := by
  have shorter := (List.dropWhile_sublist isBlank (l := text)).length_le
  exact (congrArg List.length here).symm.trans_le shorter

theorem read_value_text (here : skipBlanks text = '"' :: more) :
    readValue (fuel + 1) text = (readText more).map fun found => (.text found.1, found.2) := by
  rw [readValue, here]
  rfl

theorem read_value_array (here : skipBlanks text = '[' :: more) :
    readValue (fuel + 1) text =
      if (skipBlanks more).head? = some ']' then some (.array [], (skipBlanks more).tail)
      else (readItems fuel more).map fun found => (.array found.1, found.2) := by
  rw [readValue, here]
  simp only
  split
  · rename_i closed
    rw [closed]
    rfl
  · rename_i other
    rw [if_neg, read_items_skipped]
    intro head
    obtain ⟨rest, closed⟩ := List.head?_eq_some_iff.1 head
    exact other rest closed

theorem read_value_object (here : skipBlanks text = '\x7b' :: more) :
    readValue (fuel + 1) text =
      if (skipBlanks more).head? = some '\x7d' then some (.object [], (skipBlanks more).tail)
      else (readMembers fuel more).map fun found => (.object found.1, found.2) := by
  rw [readValue, here]
  simp only
  split
  · rename_i closed
    rw [closed]
    rfl
  · rename_i other
    rw [if_neg, read_members_skipped]
    intro head
    obtain ⟨rest, closed⟩ := List.head?_eq_some_iff.1 head
    exact other rest closed

theorem yields_enclosed {closing : Char} {empty found : Json} {build : α → Json} {extra : Nat}
    {read : Nat → List Char → Option (α × List Char)} {fuel' : Nat} (mark : isMark closing = true)
    (solid : isBlank closing = false) (parts : Regardless extra read fuel)
    (same : Respaced text text')
    (reads : (if (skipBlanks text).head? = some closing then some (empty, (skipBlanks text).tail)
      else (read fuel text).map fun found => (build found.1, found.2)) = some (found, rest))
    (enough : 2 * text'.length + extra ≤ fuel') :
    Yields found rest text'.length
      (if (skipBlanks text').head? = some closing then some (empty, (skipBlanks text').tail)
        else (read fuel' text').map fun found => (build found.1, found.2)) := by
  rw [← same.head]
  split at reads
  · rename_i closes
    rw [if_pos closes]
    obtain ⟨more, here⟩ := List.head?_eq_some_iff.1 closes
    obtain ⟨more', here', after⟩ := same.next_mark mark solid here
    rw [here] at reads
    rw [here']
    obtain ⟨rfl, rfl⟩ := Prod.mk.inj (Option.some.inj reads)
    exact ⟨more', rfl, after, Nat.le_of_succ_le (length_of_skipped here')⟩
  · rename_i other
    rw [if_neg other]
    obtain ⟨⟨inner, after⟩, inside, shown⟩ := Option.map_eq_some_iff.1 reads
    obtain ⟨rfl, rfl⟩ := Prod.mk.inj shown
    exact (parts same inside enough).map build

theorem yields_word {word : String} {value found : Json} {c : Char} {fuel' : Nat}
    (bare : isBare c = true) (letters : word.toList.all isBare = true)
    (opens : ∀ fuel text more, skipBlanks text = c :: more →
      readValue (fuel + 1) text = readWord word value more)
    (same : Respaced text text') (here : skipBlanks text = c :: more)
    (reads : readWord word value more = some (found, rest))
    (enough : 2 * text'.length + 0 ≤ fuel') :
    Yields found rest text'.length (readValue fuel' text') := by
  have aligned := same.aligned
  rw [here] at aligned
  obtain ⟨more', here', after⟩ := aligned.next bare
  have shorter := length_of_skipped here'
  obtain ⟨fuel', rfl⟩ := Nat.exists_eq_add_of_le' (show 1 ≤ fuel' by omega)
  rw [opens fuel' text' more' here']
  exact (Local.yields (read_word_local word value letters) after reads).weaken (by omega)

theorem read_value_regardless (items : Regardless 1 readItems fuel)
    (members : Regardless 1 readMembers fuel) : Regardless 0 readValue (fuel + 1) := by
  intro text text' rest found fuel' same reads enough
  have own := reads
  rw [readValue] at reads
  split at reads
  case h_1 => cases reads
  case h_2 more here =>
    obtain ⟨more', here', quoted⟩ := same.next_quote here
    have shorter := length_of_skipped here'
    obtain ⟨fuel', rfl⟩ := Nat.exists_eq_add_of_le' (show 1 ≤ fuel' by omega)
    obtain ⟨⟨content, after⟩, inside, shown⟩ := Option.map_eq_some_iff.1 reads
    obtain ⟨rfl, rfl⟩ := Prod.mk.inj shown
    rw [read_value_text here']
    exact (Yields.map Json.text (read_text_respaced quoted inside)).weaken (by omega)
  case h_3 more here =>
    obtain ⟨more', here', after⟩ := same.next_mark rfl rfl here
    have shorter := length_of_skipped here'
    obtain ⟨fuel', rfl⟩ := Nat.exists_eq_add_of_le' (show 1 ≤ fuel' by omega)
    rw [read_value_array here] at own
    rw [read_value_array here']
    exact (yields_enclosed rfl rfl items after own (by omega)).weaken (by omega)
  case h_4 more here =>
    obtain ⟨more', here', after⟩ := same.next_mark rfl rfl here
    have shorter := length_of_skipped here'
    obtain ⟨fuel', rfl⟩ := Nat.exists_eq_add_of_le' (show 1 ≤ fuel' by omega)
    rw [read_value_object here] at own
    rw [read_value_object here']
    exact (yields_enclosed rfl rfl members after own (by omega)).weaken (by omega)
  case h_5 more here =>
    exact yields_word (c := 'n') rfl rfl (fun _ _ _ here => by rw [readValue, here]; rfl)
      same here reads enough
  case h_6 more here =>
    exact yields_word (c := 't') rfl rfl (fun _ _ _ here => by rw [readValue, here]; rfl)
      same here reads enough
  case h_7 more here =>
    exact yields_word (c := 'f') rfl rfl (fun _ _ _ here => by rw [readValue, here]; rfl)
      same here reads enough
  case h_8 =>
    obtain ⟨⟨value, after⟩, inside, shown⟩ := Option.map_eq_some_iff.1 reads
    obtain ⟨rfl, rfl⟩ := Prod.mk.inj shown
    obtain ⟨rest', inside', others, shorter⟩ := read_number_local.yields same.aligned inside
    have head := JsonNumber.read_number_head inside'
    obtain ⟨c, begins, -⟩ := head
    obtain ⟨more', here'⟩ := List.head?_eq_some_iff.1 begins
    have longer := length_of_skipped here'
    obtain ⟨fuel', rfl⟩ := Nat.exists_eq_add_of_le' (show 1 ≤ fuel' by omega)
    rw [← read_value_skipped, read_value_number (JsonNumber.read_number_head inside'), inside']
    exact ⟨rest', rfl, others, shorter.trans (List.dropWhile_sublist _).length_le⟩

theorem read_items_regardless (value : Regardless 0 readValue fuel)
    (items : Regardless 1 readItems fuel) :
    Regardless 1 readItems (fuel + 1) := by
  intro text text' rest found fuel' same reads enough
  obtain ⟨fuel', rfl⟩ := Nat.exists_eq_add_of_le' (show 1 ≤ fuel' by omega)
  rw [readItems] at reads ⊢
  split at reads
  case h_1 => cases reads
  case h_2 item after first =>
    have enough' : 2 * text'.length + 0 ≤ fuel' := by omega
    obtain ⟨after', first', others, shorter⟩ := value same first enough'
    rw [first']
    simp only
    split at reads
    case h_1 more here =>
      obtain ⟨more', here', others⟩ := others.next_mark rfl rfl here
      have closed := length_of_skipped here'
      obtain ⟨rfl, rfl⟩ := Prod.mk.inj (Option.some.inj reads)
      rw [here']
      exact ⟨more', rfl, others, by omega⟩
    case h_2 more here =>
      obtain ⟨more', here', others⟩ := others.next_mark rfl rfl here
      have comma := length_of_skipped here'
      obtain ⟨⟨others', last⟩, inside, shown⟩ := Option.map_eq_some_iff.1 reads
      obtain ⟨rfl, rfl⟩ := Prod.mk.inj shown
      rw [here']
      exact ((items others inside (by omega)).map (item :: ·)).weaken (by omega)
    case h_3 => cases reads

theorem read_members_regardless (value : Regardless 0 readValue fuel)
    (members : Regardless 1 readMembers fuel) : Regardless 1 readMembers (fuel + 1) := by
  intro text text' rest found fuel' same reads enough
  obtain ⟨fuel', rfl⟩ := Nat.exists_eq_add_of_le' (show 1 ≤ fuel' by omega)
  rw [readMembers] at reads ⊢
  split at reads
  case h_2 => cases reads
  case h_1 quoted here =>
    obtain ⟨quoted', here', inside⟩ := same.next_quote here
    have quote := length_of_skipped here'
    rw [here']
    simp only
    split at reads
    case h_1 => cases reads
    case h_2 name colon named =>
      obtain ⟨colon', named', others, shorter⟩ := read_text_respaced inside named
      rw [named']
      simp only
      split at reads
      case h_2 => cases reads
      case h_1 valued here =>
        obtain ⟨valued', here', others⟩ := others.next_mark rfl rfl here
        have sign := length_of_skipped here'
        rw [here']
        simp only
        split at reads
        case h_1 => cases reads
        case h_2 held after first =>
          have enough' : 2 * valued'.length + 0 ≤ fuel' := by omega
          obtain ⟨after', first', others, shorter⟩ := value others first enough'
          rw [first']
          simp only
          split at reads
          case h_1 more here =>
            obtain ⟨more', here', others⟩ := others.next_mark rfl rfl here
            have closed := length_of_skipped here'
            obtain ⟨rfl, rfl⟩ := Prod.mk.inj (Option.some.inj reads)
            rw [here']
            exact ⟨more', rfl, others, by omega⟩
          case h_2 more here =>
            obtain ⟨more', here', others⟩ := others.next_mark rfl rfl here
            have comma := length_of_skipped here'
            obtain ⟨⟨others', last⟩, inside, shown⟩ := Option.map_eq_some_iff.1 reads
            obtain ⟨rfl, rfl⟩ := Prod.mk.inj shown
            rw [here']
            exact ((members others inside (by omega)).map ((name, held) :: ·)).weaken (by omega)
          case h_3 => cases reads

theorem readers_regardless (fuel : Nat) :
    Regardless 0 readValue fuel ∧ Regardless 1 readItems fuel ∧ Regardless 1 readMembers fuel := by
  induction fuel with
  | zero =>
      refine ⟨?_, ?_, ?_⟩
      · intro text text' rest found fuel' same reads enough
        cases reads
      · intro text text' rest found fuel' same reads enough
        cases reads
      · intro text text' rest found fuel' same reads enough
        cases reads
  | succ fuel ih =>
      obtain ⟨value, items, members⟩ := ih
      exact ⟨read_value_regardless items members, read_items_regardless value items,
        read_members_regardless value members⟩

theorem read_of_respaced {text text' : String} {json : Json}
    (same : Respaced text.toList text'.toList) (reads : read text = some json) :
    read text' = some json := by
  rw [read] at reads ⊢
  split at reads
  case h_2 => cases reads
  case h_1 found rest whole =>
    have enough : 2 * text'.toList.length + 0 ≤ 2 * text'.toList.length + 2 := by omega
    obtain ⟨rest', whole', after, -⟩ := (readers_regardless _).1 same whole enough
    rw [whole']
    simp only
    split at reads
    · rename_i ends
      rw [List.isEmpty_iff, ← List.head?_eq_none_iff] at ends
      have ends' : (skipBlanks rest').isEmpty = true := by
        rw [List.isEmpty_iff, ← List.head?_eq_none_iff, ← after.head, ends]
      rw [if_pos ends']
      exact reads
    · cases reads

/-- Blanks between lexemes do not count: texts of the same lexemes are read as the same value, or
neither is read. -/
theorem read_respaced {text text' : String} (same : Respaced text.toList text'.toList) :
    read text = read text' := by
  apply Option.ext
  intro json
  exact ⟨read_of_respaced same, read_of_respaced same.symm⟩

example : Respaced " [1, \"a b\"]\n".toList "[1,\"a b\"]".toList :=
  rfl

end Values

end Resemblance.Json
