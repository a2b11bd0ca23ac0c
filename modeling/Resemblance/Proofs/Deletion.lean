import Resemblance.Text.Offset

/-!
Deleting characters from a text. What remains begins at earlier offsets, and a span of what remains
is the span of the text it comes from without the deleted characters. Characters are deleted with
all of their bytes.
-/

namespace Resemblance.Text

def bytes : List Char → Nat
  | [] => 0
  | c :: rest => c.utf8Size + bytes rest

theorem bytes_append (cs ds : List Char) : bytes (cs ++ ds) = bytes cs + bytes ds := by
  induction cs with
  | nil => rw [List.nil_append, bytes, Nat.zero_add]
  | cons c rest ih => rw [List.cons_append, bytes, bytes, ih, Nat.add_assoc]

theorem bytes_pos {cs : List Char} (filled : cs ≠ []) : 0 < bytes cs := by
  cases cs with
  | nil => exact absurd rfl filled
  | cons c rest =>
      have wide := c.utf8Size_pos
      rw [bytes]
      omega

theorem split_inside {before part after front back : List Char} {c : Char}
    (same : before ++ (part ++ after) = front ++ c :: back) (behind : bytes before ≤ bytes front)
    (inside : bytes front < bytes before + bytes part) :
    ∃ passed ahead, front = before ++ passed ∧ part = passed ++ c :: ahead ∧
      back = ahead ++ after := by
  obtain ⟨passed, rfl, rest⟩ : ∃ passed, front = before ++ passed ∧
      part ++ after = passed ++ c :: back := by
    rcases List.append_eq_append_iff.1 same with ⟨more, rfl, later⟩ | ⟨more, rfl, later⟩
    · exact ⟨more, rfl, later⟩
    · have nothing : more = [] := by
        cases more with
        | nil => rfl
        | cons d rest =>
            have wide := bytes_pos (List.cons_ne_nil d rest)
            rw [bytes_append] at behind
            omega
      subst nothing
      exact ⟨[], by simp, by simpa using later.symm⟩
  rw [bytes_append] at inside
  rcases List.append_eq_append_iff.1 rest with ⟨more, rfl, later⟩ | ⟨more, rfl, later⟩
  · rw [bytes_append] at inside
    omega
  · cases more with
    | nil =>
        rw [List.append_nil] at inside
        omega
    | cons d ahead =>
        obtain ⟨rfl, rfl⟩ := List.cons.inj later
        exact ⟨passed, ahead, rfl, rfl, rfl⟩

def selectFrom (start : Nat) (keep : Nat → Bool) (cs : List Char) : List Char :=
  ((placed start cs).filter fun entry => keep entry.1).map Prod.snd

/-- Where an offset comes to lie after the deletion of the characters at the offsets that are
gone. -/
def moved (gone : Nat → Bool) (source : List Char) (offset : Nat) : Nat :=
  bytes (select (fun place => !gone place && place < offset) source)

def without (gone : Nat → Bool) (source : List Char) : List Char :=
  select (fun place => !gone place) source

theorem select_from_cons (start : Nat) (keep : Nat → Bool) (c : Char) (rest : List Char) :
    selectFrom start keep (c :: rest) =
      if keep start then c :: selectFrom (start + c.utf8Size) keep rest
      else selectFrom (start + c.utf8Size) keep rest := by
  cases admitted : keep start with
  | false => simp [selectFrom, placed, admitted]
  | true => simp [selectFrom, placed, admitted]

theorem le_of_mem_placed {start : Nat} {cs : List Char} {entry : Nat × Char}
    (member : entry ∈ placed start cs) : start ≤ entry.1 := by
  induction cs generalizing start with
  | nil => exact absurd member List.not_mem_nil
  | cons c rest ih =>
      rcases List.mem_cons.1 member with rfl | later
      · exact Nat.le_refl _
      · exact Nat.le_trans (Nat.le_add_right _ _) (ih later)

theorem mem_placed_split (start : Nat) (before : List Char) {c : Char} {after : List Char} :
    (start + bytes before, c) ∈ placed start (before ++ c :: after) := by
  induction before generalizing start with
  | nil => exact List.mem_cons_self ..
  | cons d rest ih =>
      rw [bytes, ← Nat.add_assoc]
      exact List.mem_cons_of_mem _ (ih (start + d.utf8Size))

theorem select_from_before {start offset : Nat} (reached : offset ≤ start) (gone : Nat → Bool)
    (cs : List Char) :
    selectFrom start (fun place => !gone place && decide (place < offset)) cs = [] := by
  rw [selectFrom, List.map_eq_nil_iff, List.filter_eq_nil_iff]
  intro entry member
  have after := le_of_mem_placed member
  have unreached : ¬ entry.1 < offset := by omega
  simp [unreached]

/-- An offset of a text that is yet to be read from `old` on, and the offset at which it comes to
lie in what remains of the text, which is read from `new` on. -/
def Aligned (gone : Nat → Bool) (cs : List Char) (old new offset place : Nat) : Prop :=
  (offset ≤ old ∧ place ≤ new) ∨
    place = new + bytes (selectFrom old (fun at' => !gone at' && decide (at' < offset)) cs)

theorem Aligned.le_iff {gone : Nat → Bool} {c : Char} {rest : List Char}
    {old new offset place : Nat} (aligned : Aligned gone (c :: rest) old new offset place)
    (remains : gone old = false) : place ≤ new ↔ offset ≤ old := by
  rcases aligned with ⟨before, passed⟩ | rfl
  · exact ⟨fun _ => before, fun _ => passed⟩
  · by_cases reached : offset ≤ old
    · rw [select_from_before reached]
      simp [bytes, reached]
    · have wide := c.utf8Size_pos
      have inside : old < offset := by omega
      rw [select_from_cons]
      simp only [remains, inside, Bool.not_false, decide_true, Bool.and_self, if_true, bytes]
      omega

theorem Aligned.of_gone {gone : Nat → Bool} {c : Char} {rest : List Char}
    {old new offset place : Nat} (aligned : Aligned gone (c :: rest) old new offset place)
    (deleted : gone old = true) : Aligned gone rest (old + c.utf8Size) new offset place := by
  rcases aligned with ⟨before, passed⟩ | rfl
  · exact Or.inl ⟨by omega, passed⟩
  · right
    rw [select_from_cons]
    simp [deleted]

theorem Aligned.of_kept {gone : Nat → Bool} {c : Char} {rest : List Char}
    {old new offset place : Nat} (aligned : Aligned gone (c :: rest) old new offset place)
    (remains : gone old = false) :
    Aligned gone rest (old + c.utf8Size) (new + c.utf8Size) offset place := by
  rcases aligned with ⟨before, passed⟩ | rfl
  · exact Or.inl ⟨by omega, by omega⟩
  · by_cases reached : offset ≤ old
    · left
      rw [select_from_before reached]
      exact ⟨by omega, Nat.add_le_add_left (Nat.zero_le _) new⟩
    · right
      have inside : old < offset := by omega
      rw [select_from_cons]
      simp only [remains, inside, Bool.not_false, decide_true, Bool.and_self, if_true, bytes]
      omega

/-- The induction is on the text; both ends of the span stay aligned from one character to the
next. -/
theorem slice_from_without {gone : Nat → Bool} {cs : List Char}
    {old new start stop start' stop' : Nat} (starts : Aligned gone cs old new start start')
    (stops : Aligned gone cs old new stop stop') :
    selectFrom new (fun place => decide (start' ≤ place) && decide (place < stop'))
        (selectFrom old (fun place => !gone place) cs) =
      selectFrom old
        (fun place => decide (start ≤ place) && decide (place < stop) && !gone place) cs := by
  induction cs generalizing old new with
  | nil => rfl
  | cons c rest ih =>
      rw [select_from_cons old, select_from_cons old]
      cases deleted : gone old with
      | true =>
          simpa using ih (starts.of_gone deleted) (stops.of_gone deleted)
      | false =>
          have remaining := ih (starts.of_kept deleted) (stops.of_kept deleted)
          have first : decide (start' ≤ new) = decide (start ≤ old) :=
            decide_eq_decide.2 (starts.le_iff deleted)
          have last : decide (new < stop') = decide (old < stop) := by
            have reached := stops.le_iff deleted
            exact decide_eq_decide.2 (by omega)
          simp only [Bool.not_false, if_true, Bool.and_true]
          rw [select_from_cons, remaining, first, last]

theorem slice_without (gone : Nat → Bool) (source : List Char) (start stop : Nat) :
    slice (moved gone source start) (moved gone source stop) (without gone source) =
      select (fun place => decide (start ≤ place) && decide (place < stop) && !gone place)
        source := by
  have aligned : ∀ offset, Aligned gone source 0 0 offset (moved gone source offset) :=
    fun offset => Or.inr (Nat.zero_add _).symm
  exact slice_from_without (aligned start) (aligned stop)

theorem filter_placed_and (keep further : Nat → Bool) (source : List Char) :
    (placed 0 source).filter (fun entry => keep entry.1 && further entry.1) =
      ((placed 0 source).filter fun entry => keep entry.1).filter fun entry => further entry.1 := by
  rw [List.filter_filter]
  simp only [Bool.and_comm]

theorem select_and_sublist (keep further : Nat → Bool) (source : List Char) :
    (select (fun place => keep place && further place) source).Sublist (select keep source) := by
  rw [select, filter_placed_and]
  exact List.filter_sublist.map Prod.snd

theorem select_and_length_eq_iff (keep further : Nat → Bool) (source : List Char) :
    (select (fun place => keep place && further place) source).length =
        (select keep source).length ↔
      ∀ entry ∈ placed 0 source, keep entry.1 = true → further entry.1 = true := by
  rw [select, select, List.length_map, List.length_map, filter_placed_and,
    List.length_filter_eq_length_iff]
  simp only [List.mem_filter, and_imp]

section Select

variable {start : Nat} {keep keep' : Nat → Bool} {cs : List Char}

theorem select_from_append (start : Nat) (keep : Nat → Bool) (cs ds : List Char) :
    selectFrom start keep (cs ++ ds) =
      selectFrom start keep cs ++ selectFrom (start + bytes cs) keep ds := by
  induction cs generalizing start with
  | nil => rfl
  | cons c rest ih =>
      rw [List.cons_append, select_from_cons, select_from_cons, ih, bytes, Nat.add_assoc]
      split <;> rfl

theorem select_from_congr
    (same : ∀ offset, start ≤ offset → offset < start + bytes cs → keep offset = keep' offset) :
    selectFrom start keep cs = selectFrom start keep' cs := by
  induction cs generalizing start with
  | nil => rfl
  | cons c rest ih =>
      have wide := c.utf8Size_pos
      have own := same start (Nat.le_refl start) (by rw [bytes]; omega)
      have later : selectFrom (start + c.utf8Size) keep rest =
          selectFrom (start + c.utf8Size) keep' rest :=
        ih fun offset above below => same offset (by omega) (by rw [bytes]; omega)
      rw [select_from_cons, select_from_cons, own, later]

theorem select_from_all (start : Nat) (cs : List Char) :
    selectFrom start (fun _ => true) cs = cs := by
  induction cs generalizing start with
  | nil => rfl
  | cons c rest ih => rw [select_from_cons, if_pos rfl, ih]

theorem select_from_none (start : Nat) (cs : List Char) :
    selectFrom start (fun _ => false) cs = [] := by
  induction cs generalizing start with
  | nil => rfl
  | cons c rest ih => rw [select_from_cons, if_neg Bool.false_ne_true, ih]

end Select

def encoded (cs : List Char) : List UInt8 :=
  (String.ofList cs).toUTF8.data.toList

theorem encoded_eq (cs : List Char) : encoded cs = cs.flatMap String.utf8EncodeChar := by
  rw [encoded, String.toUTF8_eq_toByteArray, String.toByteArray_ofList, List.utf8Encode,
    List.data_toByteArray]

/-- Characters that are deleted as a whole are deleted byte by byte. -/
theorem encoded_select {start : Nat} {keep : Nat → Bool} {cs : List Char}
    (whole : ∀ before c after, cs = before ++ c :: after → ∀ inner, inner < c.utf8Size →
      keep (start + bytes before + inner) = keep (start + bytes before)) :
    encoded (selectFrom start keep cs) =
      (((encoded cs).zipIdx start).filter fun entry => keep entry.2).map Prod.fst := by
  induction cs generalizing start with
  | nil => rfl
  | cons c rest ih =>
      have remaining : ∀ before d after, rest = before ++ d :: after → ∀ inner, inner < d.utf8Size →
          keep (start + c.utf8Size + bytes before + inner) =
              keep (start + c.utf8Size + bytes before) := by
        intro before d after split inner bound
        have deeper := whole (c :: before) d after (by rw [split]; rfl) inner bound
        rwa [bytes, ← Nat.add_assoc] at deeper
      have later := ih remaining
      have own : ∀ entry ∈ (String.utf8EncodeChar c).zipIdx start, keep entry.2 = keep start := by
        intro entry member
        obtain ⟨above, below, -⟩ := List.mem_zipIdx member
        rw [String.length_utf8EncodeChar] at below
        have same := whole [] c rest rfl (entry.2 - start) (by omega)
        rwa [bytes, Nat.add_zero, Nat.add_sub_cancel' above] at same
      rw [select_from_cons]
      rw [encoded_eq, encoded_eq] at later
      rw [encoded_eq, encoded_eq, List.flatMap_cons, List.zipIdx_append, List.filter_append,
        List.map_append, String.length_utf8EncodeChar, ← later]
      cases kept : keep start with
      | true =>
          rw [List.filter_eq_self.2 fun entry member => (own entry member).trans kept,
            List.zipIdx_map_fst]
          rfl
      | false =>
          rw [List.filter_eq_nil_iff.2 fun entry member => by rw [own entry member, kept]; decide]
          rfl

end Resemblance.Text
