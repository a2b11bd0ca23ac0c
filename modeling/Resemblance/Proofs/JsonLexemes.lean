import Mathlib.Data.List.Infix
import Resemblance.Proofs.JsonText
import Resemblance.Token

/-!
Lexemes of JSON texts: marks, quoted texts, and runs of the characters of numbers and words, with
blanks anywhere between them. The reader of a number, a word or a quoted text sees nothing but the
lexeme it reads, so it reads the same from every text that goes on with that lexeme.
-/

namespace Resemblance.Json

/-- Where a character stands: outside of quotes, inside, or there behind a backslash. -/
inductive Place where
  | outside
  | quoted
  | escaped

def isMark (c : Char) : Bool :=
  c == '[' || c == ']' || c == '\x7b' || c == '\x7d' || c == ',' || c == ':'

def isBare (c : Char) : Bool :=
  !isBlank c && !isMark c && c != '"'

def startsBare : List Char → Bool
  | [] => false
  | c :: _ => isBare c

/-- The lexemes of a text from some place on. Blanks outside of quotes belong to none. -/
def lexemes : Place → List Char → List (List Char)
  | _, [] => []
  | .outside, c :: rest =>
      if isBlank c then lexemes .outside rest
      else if isMark c then [c] :: lexemes .outside rest
      else if c == '"' then Token.glue c (lexemes .quoted rest)
      else if startsBare rest then Token.glue c (lexemes .outside rest)
      else [c] :: lexemes .outside rest
  | .quoted, c :: rest =>
      if c == '"' then [c] :: lexemes .outside rest
      else Token.glue c (lexemes (if c == '\\' then .escaped else .quoted) rest)
  | .escaped, c :: rest => Token.glue c (lexemes .quoted rest)

/-- Texts with the same lexemes: they differ in white space that does not count. -/
def Respaced (text text' : List Char) : Prop :=
  lexemes .outside text = lexemes .outside text'

section Lexemes

variable {place : Place} {c c' : Char} {text rest rest' : List Char} {more more' : List (List Char)}

theorem nil_not_mem_glue (filled : [] ∉ more) : [] ∉ Token.glue c more := by
  cases more with
  | nil => simp [Token.glue]
  | cons lexeme more =>
      rw [Token.glue, List.mem_cons, not_or]
      exact ⟨(List.cons_ne_nil c lexeme).symm, fun member => filled (.tail _ member)⟩

theorem nil_not_mem_lexemes : [] ∉ lexemes place text := by
  fun_induction lexemes place text with
  | case1 => simp
  | case2 _ _ _ ih => exact ih
  | case3 _ _ _ _ ih => simpa using ih
  | case4 _ _ _ _ _ ih => exact nil_not_mem_glue ih
  | case5 _ _ _ _ _ _ ih => exact nil_not_mem_glue ih
  | case6 _ _ _ _ _ _ ih => simpa using ih
  | case7 _ _ _ ih => simpa using ih
  | case8 _ _ _ ih => exact nil_not_mem_glue ih
  | case9 _ _ ih => exact nil_not_mem_glue ih

theorem glue_injective (filled : [] ∉ more) (filled' : [] ∉ more')
    (same : Token.glue c more = Token.glue c' more') : c = c' ∧ more = more' := by
  cases more with
  | nil =>
      cases more' with
      | nil => simpa [Token.glue] using same
      | cons lexeme' more' =>
          have empty : lexeme' = [] := by simp_all [Token.glue]
          simp [empty] at filled'
  | cons lexeme more =>
      cases more' with
      | nil =>
          have empty : lexeme = [] := by simp_all [Token.glue]
          simp [empty] at filled
      | cons lexeme' more' => simpa [Token.glue, and_assoc] using same

theorem glue_lexemes {place' : Place}
    (same : Token.glue c (lexemes place rest) = Token.glue c' (lexemes place' rest')) :
    c = c' ∧ lexemes place rest = lexemes place' rest' :=
  glue_injective nil_not_mem_lexemes nil_not_mem_lexemes same

theorem lexemes_blank (blank : isBlank c = true) :
    lexemes .outside (c :: rest) = lexemes .outside rest := by
  rw [lexemes, if_pos blank]

theorem lexemes_mark (mark : isMark c = true) (solid : isBlank c = false) :
    lexemes .outside (c :: rest) = [c] :: lexemes .outside rest := by
  rw [lexemes, solid, if_neg Bool.false_ne_true, if_pos mark]

theorem lexemes_quote : lexemes .outside ('"' :: rest) = Token.glue '"' (lexemes .quoted rest) :=
  rfl

theorem lexemes_bare (bare : isBare c = true) :
    lexemes .outside (c :: rest) =
      if startsBare rest then Token.glue c (lexemes .outside rest)
      else [c] :: lexemes .outside rest := by
  simp only [isBare, Bool.and_eq_true, Bool.not_eq_true', bne_iff_ne] at bare
  rw [lexemes, bare.1.1, bare.1.2, if_neg Bool.false_ne_true, if_neg Bool.false_ne_true,
    if_neg (by simpa using bare.2)]

theorem lexemes_quoted (other : c ≠ '"') :
    lexemes .quoted (c :: rest) =
      Token.glue c (lexemes (if c == '\\' then .escaped else .quoted) rest) := by
  rw [lexemes, if_neg (by simpa using other)]

theorem lexemes_skip_blanks (text : List Char) :
    lexemes .outside (skipBlanks text) = lexemes .outside text := by
  induction text with
  | nil => rfl
  | cons c rest ih =>
      cases blank : isBlank c with
      | false => rw [skip_blanks_of_solid (by simpa [Solid] using blank)]
      | true =>
          have skipped : skipBlanks (c :: rest) = skipBlanks rest :=
            List.dropWhile_cons_of_pos blank
          rw [skipped, ih, lexemes_blank blank]

theorem head_glue : (Token.glue c more).head?.bind List.head? = some c := by
  cases more with
  | nil => rfl
  | cons lexeme more => rfl

theorem head_lexemes (text : List Char) :
    (lexemes .outside text).head?.bind List.head? = (skipBlanks text).head? := by
  induction text with
  | nil => rfl
  | cons c rest ih =>
      cases blank : isBlank c with
      | true =>
          have skipped : skipBlanks (c :: rest) = skipBlanks rest :=
            List.dropWhile_cons_of_pos blank
          rw [skipped, lexemes_blank blank, ih]
      | false =>
          rw [skip_blanks_of_solid (by simpa [Solid] using blank), lexemes, blank,
            if_neg Bool.false_ne_true]
          split
          · rfl
          · split
            · exact head_glue
            · split
              · exact head_glue
              · rfl

end Lexemes

section Steps

variable {c : Char} {text text' rest : List Char}

theorem Respaced.symm (same : Respaced text text') : Respaced text' text :=
  Eq.symm same

theorem Respaced.head (same : Respaced text text') :
    (skipBlanks text).head? = (skipBlanks text').head? := by
  rw [← head_lexemes, ← head_lexemes, same]

/-- Both texts go on with the same character, and from there on they are of the same lexemes. -/
theorem Respaced.next (same : Respaced text text') (here : skipBlanks text = c :: rest) :
    ∃ rest', skipBlanks text' = c :: rest' ∧ Respaced (c :: rest) (c :: rest') := by
  have first := same.head
  rw [here, List.head?_cons] at first
  obtain ⟨rest', here'⟩ := List.head?_eq_some_iff.1 first.symm
  have both : Respaced (skipBlanks text) (skipBlanks text') := by
    rw [Respaced, lexemes_skip_blanks, lexemes_skip_blanks, same]
  rw [here, here'] at both
  exact ⟨rest', here', both⟩

theorem Respaced.next_mark (mark : isMark c = true) (solid : isBlank c = false)
    (same : Respaced text text') (here : skipBlanks text = c :: rest) :
    ∃ rest', skipBlanks text' = c :: rest' ∧ Respaced rest rest' := by
  obtain ⟨rest', here', both⟩ := same.next here
  rw [Respaced, lexemes_mark mark solid, lexemes_mark mark solid] at both
  exact ⟨rest', here', (List.cons.inj both).2⟩

theorem Respaced.next_quote (same : Respaced text text') (here : skipBlanks text = '"' :: rest) :
    ∃ rest', skipBlanks text' = '"' :: rest' ∧ lexemes .quoted rest = lexemes .quoted rest' := by
  obtain ⟨rest', here', both⟩ := same.next here
  rw [Respaced, lexemes_quote, lexemes_quote] at both
  exact ⟨rest', here', (glue_lexemes both).2⟩

end Steps

section Bare

variable {c : Char} {text text' rest : List Char}

/-- Texts of the same lexemes that go on with a number or a word at once, or both do not. -/
structure Aligned (text text' : List Char) : Prop where
  respaced : Respaced text text'
  starts : startsBare text = startsBare text'

theorem starts_bare_eq (text : List Char) : startsBare text = text.head?.any isBare := by
  cases text with
  | nil => rfl
  | cons c rest => rfl

theorem Respaced.aligned (same : Respaced text text') :
    Aligned (skipBlanks text) (skipBlanks text') where
  respaced := by rw [Respaced, lexemes_skip_blanks, lexemes_skip_blanks, same]
  starts := by rw [starts_bare_eq, starts_bare_eq, same.head]

theorem filled_lexeme (starts : startsBare text = true) :
    ∃ c lexeme more, lexemes .outside text = (c :: lexeme) :: more := by
  cases text with
  | nil => exact absurd starts Bool.false_ne_true
  | cons c rest =>
      rw [lexemes_bare starts]
      split
      · cases lexemes .outside rest with
        | nil => exact ⟨c, [], [], rfl⟩
        | cons lexeme more => exact ⟨c, lexeme, more, rfl⟩
      · exact ⟨c, [], lexemes .outside rest, rfl⟩

theorem glue_ne_single (starts : startsBare rest = true) (c c' : Char) (more : List (List Char)) :
    Token.glue c (lexemes .outside rest) ≠ [c'] :: more := by
  obtain ⟨d, lexeme, others, shown⟩ := filled_lexeme starts
  rw [shown]
  simp [Token.glue]

theorem Aligned.next (bare : isBare c = true) (aligned : Aligned (c :: rest) text') :
    ∃ rest', text' = c :: rest' ∧ Aligned rest rest' := by
  have starts := aligned.starts
  cases text' with
  | nil => exact absurd (starts.symm.trans bare) Bool.false_ne_true
  | cons c' rest' =>
      have bare' : isBare c' = true := starts.symm.trans bare
      have same := aligned.respaced
      rw [Respaced, lexemes_bare bare, lexemes_bare bare'] at same
      cases goes : startsBare rest with
      | true =>
          cases goes' : startsBare rest' with
          | true =>
              rw [goes, goes', if_pos rfl, if_pos rfl] at same
              obtain ⟨rfl, others⟩ := glue_lexemes same
              exact ⟨rest', rfl, others, goes.trans goes'.symm⟩
          | false =>
              rw [goes, goes', if_pos rfl, if_neg Bool.false_ne_true] at same
              exact absurd same (glue_ne_single goes c c' _)
      | false =>
          cases goes' : startsBare rest' with
          | true =>
              rw [goes, goes', if_pos rfl, if_neg Bool.false_ne_true] at same
              exact absurd same.symm (glue_ne_single goes' c' c _)
          | false =>
              rw [goes, goes', if_neg Bool.false_ne_true, if_neg Bool.false_ne_true] at same
              obtain ⟨first, others⟩ := List.cons.inj same
              obtain rfl : c = c' := List.head_eq_of_cons_eq first
              exact ⟨rest', rfl, others, goes.trans goes'.symm⟩

theorem Aligned.symm (aligned : Aligned text text') : Aligned text' text :=
  ⟨aligned.respaced.symm, aligned.starts.symm⟩

theorem Aligned.begin_with (bare : isBare c = true) (aligned : Aligned text text') :
    (∃ rest rest', text = c :: rest ∧ text' = c :: rest' ∧ Aligned rest rest') ∨
      (∀ d ∈ text.head?, d ≠ c) ∧ ∀ d ∈ text'.head?, d ≠ c := by
  by_cases begins : text.head? = some c
  · obtain ⟨rest, rfl⟩ := List.head?_eq_some_iff.1 begins
    obtain ⟨rest', rfl, after⟩ := aligned.next bare
    exact .inl ⟨rest, rest', rfl, rfl, after⟩
  · apply Or.inr
    constructor
    · rintro d here rfl
      exact begins here
    · rintro d here rfl
      obtain ⟨rest', rfl⟩ := List.head?_eq_some_iff.1 here
      obtain ⟨rest, rfl, -⟩ := aligned.symm.next bare
      exact begins rfl

/-- Characters of one kind that belong to numbers and words are taken from both texts alike. -/
theorem Aligned.span {keep : Char → Bool} (inside : ∀ c, keep c = true → isBare c = true)
    (aligned : Aligned text text') :
    text'.takeWhile keep = text.takeWhile keep ∧
      Aligned (text.drop (text.takeWhile keep).length)
        (text'.drop (text.takeWhile keep).length) := by
  have nothing {text : List Char} (stops : startsBare text = false) : text.takeWhile keep = [] := by
    cases text with
    | nil => rfl
    | cons c rest =>
        apply List.takeWhile_cons_of_neg
        intro kept
        exact absurd (stops.symm.trans (inside c kept)) Bool.false_ne_true
  induction text generalizing text' with
  | nil =>
      rw [nothing aligned.starts.symm]
      exact ⟨rfl, aligned⟩
  | cons c rest ih =>
      cases kept : keep c with
      | true =>
          obtain ⟨rest', rfl, after⟩ := aligned.next (inside c kept)
          obtain ⟨taken, dropped⟩ := ih after
          rw [List.takeWhile_cons_of_pos kept, List.takeWhile_cons_of_pos kept, taken]
          exact ⟨rfl, dropped⟩
      | false =>
          have none : (c :: rest).takeWhile keep = [] := List.takeWhile_cons_of_neg (by simp [kept])
          cases bare : isBare c with
          | true =>
              obtain ⟨rest', rfl, after⟩ := aligned.next bare
              rw [none, List.takeWhile_cons_of_neg (by simp [kept])]
              exact ⟨rfl, aligned⟩
          | false =>
              rw [none, nothing (aligned.starts.symm.trans bare)]
              exact ⟨rfl, aligned⟩

end Bare

section Numbers

variable {α : Type} {text text' : List Char}

/-- A reader that reads the same from texts that go on alike, and leaves texts that go on alike. -/
def Local (read : List Char → Option (α × List Char)) : Prop :=
  ∀ ⦃text text' rest : List Char⦄ ⦃found : α⦄, Aligned text text' → read text = some (found, rest) →
    ∃ rest', read text' = some (found, rest') ∧ Aligned rest rest' ∧ rest'.length ≤ text'.length

theorem bare_of_number {c : Char} (first : c = '-' ∨ c.isDigit = true) : isBare c = true := by
  have begun : Begun [c] := begun_of_number first
  have solid : isBlank c = false := begun.solid c rfl
  have other (c' : Char) (sign : c' ≠ '-') (notDigit : c'.isDigit = false) : (c == c') = false :=
    beq_eq_false_iff_ne.2 (ne_of_number first sign notDigit)
  have mark : isMark c = false := by
    rw [isMark, other '[' (by decide) rfl, other ']' (by decide) rfl, other '\x7b' (by decide) rfl,
      other '\x7d' (by decide) rfl, other ',' (by decide) rfl, other ':' (by decide) rfl]
    rfl
  rw [isBare, solid, mark, bne, other '"' (by decide) rfl]
  rfl

theorem bare_of_digit (c : Char) (digit : c.isDigit = true) : isBare c = true :=
  bare_of_number (.inr digit)

theorem read_whole_local : Local readWhole := by
  intro text text' rest found aligned read
  obtain ⟨same, after⟩ := aligned.span bare_of_digit
  rw [readWhole] at read ⊢
  rw [same]
  split at read
  · cases read
  · cases read
  · obtain ⟨rfl, rfl⟩ := Prod.mk.inj (Option.some.inj read)
    exact ⟨_, rfl, after, by simp⟩

theorem read_places_local : Local readPlaces := by
  intro text text' rest found aligned read
  obtain ⟨more, more', rfl, rfl, aligned'⟩ | ⟨other, other'⟩ :=
    aligned.begin_with (c := '.') rfl
  · obtain ⟨same, after⟩ := aligned'.span bare_of_digit
    simp only [readPlaces] at read ⊢
    rw [same]
    split at read
    · cases read
    · rename_i filled
      obtain ⟨rfl, rfl⟩ := Prod.mk.inj (Option.some.inj read)
      rw [if_neg filled]
      exact ⟨_, rfl, after, by simp; omega⟩
  · rw [read_no_places other] at read
    obtain ⟨rfl, rfl⟩ := Prod.mk.inj (Option.some.inj read)
    exact ⟨text', read_no_places other', aligned, le_rfl⟩

def splitSign (text : List Char) : Bool × List Char :=
  match text with
  | '+' :: rest => (false, rest)
  | '-' :: rest => (true, rest)
  | _ => (false, text)

theorem split_sign_other (plus : ∀ c ∈ text.head?, c ≠ '+') (minus : ∀ c ∈ text.head?, c ≠ '-') :
    splitSign text = (false, text) := by
  rw [splitSign]
  · rintro rest rfl
    exact plus '+' rfl rfl
  · rintro rest rfl
    exact minus '-' rfl rfl

theorem split_sign_aligned (aligned : Aligned text text') :
    (splitSign text').1 = (splitSign text).1 ∧ Aligned (splitSign text).2 (splitSign text').2 ∧
      (splitSign text').2.length ≤ text'.length := by
  obtain ⟨more, more', rfl, rfl, after⟩ | ⟨plus, plus'⟩ := aligned.begin_with (c := '+') rfl
  · exact ⟨rfl, after, by simp [splitSign]⟩
  obtain ⟨more, more', rfl, rfl, after⟩ | ⟨minus, minus'⟩ := aligned.begin_with (c := '-') rfl
  · exact ⟨rfl, after, by simp [splitSign]⟩
  rw [split_sign_other plus minus, split_sign_other plus' minus']
  exact ⟨rfl, aligned, le_rfl⟩

def readPower (text : List Char) : Option (Option Int × List Char) :=
  let digits := (splitSign text).2.takeWhile Char.isDigit
  if digits.isEmpty then none
  else
    let value : Int := natOfDigits digits
    some (some (if (splitSign text).1 then -value else value),
      (splitSign text).2.drop digits.length)

theorem read_power_local : Local readPower := by
  intro text text' rest found aligned read
  obtain ⟨sign, unsigned, shorter⟩ := split_sign_aligned aligned
  obtain ⟨same, after⟩ := unsigned.span bare_of_digit
  simp only [readPower] at read ⊢
  rw [same, sign]
  split at read
  · cases read
  · rename_i filled
    obtain ⟨rfl, rfl⟩ := Prod.mk.inj (Option.some.inj read)
    rw [if_neg filled]
    exact ⟨_, rfl, after, by rw [List.length_drop]; omega⟩

theorem read_exponent_letter {c : Char} (letter : c = 'e' ∨ c = 'E') :
    readExponent (c :: text) = readPower text := by
  have chosen : (c == 'e' || c == 'E') = true := by simpa using letter
  rw [readExponent.eq_def]
  simp only [chosen, if_true]
  rfl

theorem read_exponent_local : Local readExponent := by
  intro text text' rest found aligned read
  have power {c : Char} (letter : c = 'e' ∨ c = 'E') {more more' : List Char}
      (aligned : Aligned more more') (read : readExponent (c :: more) = some (found, rest)) :
      ∃ rest', readExponent (c :: more') = some (found, rest') ∧ Aligned rest rest' ∧
        rest'.length ≤ (c :: more').length := by
    rw [read_exponent_letter letter] at read ⊢
    obtain ⟨rest', read', after, shorter⟩ := read_power_local aligned read
    exact ⟨rest', read', after, Nat.le_succ_of_le shorter⟩
  obtain ⟨more, more', rfl, rfl, after⟩ | ⟨lower, lower'⟩ := aligned.begin_with (c := 'e') rfl
  · exact power (.inl rfl) after read
  obtain ⟨more, more', rfl, rfl, after⟩ | ⟨upper, upper'⟩ := aligned.begin_with (c := 'E') rfl
  · exact power (.inr rfl) after read
  have none : readExponent text = some (none, text) :=
    read_no_exponent fun c here => ⟨lower c here, upper c here⟩
  rw [none] at read
  obtain ⟨rfl, rfl⟩ := Prod.mk.inj (Option.some.inj read)
  exact ⟨text', read_no_exponent fun c here => ⟨lower' c here, upper' c here⟩, aligned, le_rfl⟩

theorem read_magnitude_local (negative : Bool) : Local (readMagnitude negative) := by
  intro text text' rest found aligned read
  simp only [readMagnitude, Option.bind_eq_bind, Option.bind_eq_some_iff] at read
  obtain ⟨⟨whole, middle⟩, first, ⟨places, last⟩, second, ⟨exponent, after⟩, third, read⟩ := read
  obtain ⟨middle', first', aligned, shorter⟩ := read_whole_local aligned first
  obtain ⟨last', second', aligned, shorter'⟩ := read_places_local aligned second
  obtain ⟨after', third', aligned, shorter''⟩ := read_exponent_local aligned third
  obtain ⟨rfl, rfl⟩ := Prod.mk.inj (Option.some.inj read)
  exact ⟨after', by simp [readMagnitude, first', second', third'], aligned, by omega⟩

theorem read_number_local : Local readNumber := by
  intro text text' rest found aligned read
  obtain ⟨more, more', rfl, rfl, after⟩ | ⟨other, other'⟩ := aligned.begin_with (c := '-') rfl
  · obtain ⟨rest', read', after', shorter⟩ := read_magnitude_local true after read
    exact ⟨rest', read', after', Nat.le_succ_of_le shorter⟩
  · have unsigned {text : List Char} (other : ∀ c ∈ text.head?, c ≠ '-') :
        readNumber text = readMagnitude false text := by
      rw [readNumber]
      rintro rest rfl
      exact other '-' rfl rfl
    rw [unsigned other] at read
    rw [unsigned other']
    exact read_magnitude_local false aligned read

theorem read_word_local (word : String) (value : Json) (bare : word.toList.all isBare = true) :
    Local (readWord word value) := by
  intro text text' rest found aligned read
  have taken (letters : List Char) (bare : ∀ c ∈ letters, isBare c = true) {text text' : List Char}
      (aligned : Aligned text text') (starts : letters <+: text) :
      letters <+: text' ∧ Aligned (text.drop letters.length) (text'.drop letters.length) := by
    induction letters generalizing text text' with
    | nil => exact ⟨List.nil_prefix, aligned⟩
    | cons c letters ih =>
        obtain ⟨more, rfl⟩ := starts
        obtain ⟨more', rfl, after⟩ := aligned.next (bare c List.mem_cons_self)
        obtain ⟨starts', dropped⟩ :=
          ih (fun d member => bare d (.tail _ member)) after (List.prefix_append letters more)
        exact ⟨(List.prefix_cons_inj c).2 starts', dropped⟩
  rw [readWord] at read ⊢
  split at read
  · rename_i starts
    obtain ⟨rfl, rfl⟩ := Prod.mk.inj (Option.some.inj read)
    obtain ⟨starts', after⟩ :=
      taken word.toList (List.all_eq_true.1 bare) aligned (List.isPrefixOf_iff_prefix.1 starts)
    rw [if_pos (List.isPrefixOf_iff_prefix.2 starts')]
    exact ⟨_, rfl, after, by simp⟩
  · cases read

end Numbers

section Texts

variable {c : Char} {text text' rest : List Char}

theorem quoted_close (same : lexemes .quoted ('"' :: rest) = lexemes .quoted text') :
    ∃ rest', text' = '"' :: rest' ∧ Respaced rest rest' := by
  cases text' with
  | nil => cases same
  | cons c' rest' =>
      by_cases closes : c' = '"'
      · subst closes
        exact ⟨rest', rfl, (List.cons.inj same).2⟩
      · rw [lexemes_quoted closes] at same
        have first := congrArg (fun shown => shown.head?.bind List.head?) same
        simp only [head_glue] at first
        exact absurd (Option.some.inj first).symm closes

theorem quoted_next (other : c ≠ '"') (same : lexemes .quoted (c :: rest) = lexemes .quoted text') :
    ∃ rest', text' = c :: rest' ∧
      lexemes (if c == '\\' then .escaped else .quoted) rest =
        lexemes (if c == '\\' then .escaped else .quoted) rest' := by
  rw [lexemes_quoted other] at same
  have first := congrArg (fun shown => shown.head?.bind List.head?) same
  simp only [head_glue] at first
  cases text' with
  | nil => cases first
  | cons c' rest' =>
      by_cases closes : c' = '"'
      · subst closes
        exact absurd (Option.some.inj first) other
      · rw [lexemes_quoted closes] at same
        obtain rfl := (glue_lexemes same).1
        exact ⟨rest', rfl, (glue_lexemes same).2⟩

theorem quoted_escape (same : lexemes .quoted ('\\' :: c :: rest) = lexemes .quoted text') :
    ∃ rest', text' = '\\' :: c :: rest' ∧ lexemes .quoted rest = lexemes .quoted rest' := by
  obtain ⟨more', rfl, escaped⟩ := quoted_next (by decide) same
  cases more' with
  | nil =>
      have first := congrArg (fun shown => shown.head?.bind List.head?) escaped
      simp only [beq_self_eq_true, if_true, lexemes, head_glue] at first
      cases first
  | cons c' rest' =>
      obtain ⟨rfl, after⟩ := glue_lexemes escaped
      exact ⟨rest', rfl, after⟩

theorem quoted_append {letters : List Char} (inside : ∀ c ∈ letters, c ≠ '"' ∧ c ≠ '\\')
    (same : lexemes .quoted (letters ++ rest) = lexemes .quoted text') :
    ∃ rest', text' = letters ++ rest' ∧ lexemes .quoted rest = lexemes .quoted rest' := by
  induction letters generalizing text' with
  | nil => exact ⟨text', rfl, same⟩
  | cons c letters ih =>
      obtain ⟨quote, slash⟩ := inside c List.mem_cons_self
      obtain ⟨more', rfl, others⟩ := quoted_next quote same
      rw [if_neg (by simpa using slash)] at others
      obtain ⟨rest', rfl, after⟩ := ih (fun d member => inside d (.tail _ member)) others
      exact ⟨rest', rfl, after⟩

theorem inside_of_hex {a b c d : Char} {found : Nat × List Char}
    (read : readHex4 [a, b, c, d] = some found) : ∀ e ∈ [a, b, c, d], e ≠ '"' ∧ e ≠ '\\' := by
  have digit {e : Char} {value : Nat} (read : hexValue? e = some value) : e ≠ '"' ∧ e ≠ '\\' := by
    have quote : hexValue? '"' = none := by decide
    have slash : hexValue? '\\' = none := by decide
    constructor
    · rintro rfl
      exact nomatch quote.symm.trans read
    · rintro rfl
      exact nomatch slash.symm.trans read
  simp only [readHex4, Option.bind_eq_bind, Option.bind_eq_some_iff] at read
  obtain ⟨_, first, _, second, _, third, _, fourth, -⟩ := read
  simp only [List.forall_mem_cons, List.not_mem_nil, false_implies, implies_true, and_true]
  exact ⟨digit first, digit second, digit third, digit fourth⟩

theorem ne_of_escape {escaped : Char} (known : escape? c = some escaped) : c ≠ 'u' := by
  have unknown : escape? 'u' = none := by decide
  rintro rfl
  exact absurd (known.symm.trans unknown) (Option.some_ne_none escaped)

theorem read_units_respaced {units : Units} (same : lexemes .quoted text = lexemes .quoted text')
    (read : readUnits text = some (units, rest)) :
    ∃ rest', readUnits text' = some (units, rest') ∧ Respaced rest rest' ∧
      rest'.length ≤ text'.length := by
  fun_induction readUnits text generalizing text' units rest with
  | case1 => cases read
  | case2 after =>
      obtain ⟨rfl, rfl⟩ := Prod.mk.inj (Option.some.inj read)
      obtain ⟨rest', rfl, others⟩ := quoted_close same
      exact ⟨rest', rfl, others, by simp⟩
  | case3 a b c d more unit left units after others hex ih =>
      obtain ⟨rfl, rfl⟩ := Prod.mk.inj (Option.some.inj read)
      obtain ⟨more', rfl, behind⟩ := quoted_escape same
      obtain ⟨more', rfl, digits⟩ := quoted_append (inside_of_hex hex) behind
      obtain ⟨rest', read', after', shorter⟩ := ih digits others
      exact ⟨rest', by simp [readUnits, hex, read'], after', by simp; omega⟩
  | case5 c more _ escaped units after others known ih =>
      have other := ne_of_escape known
      obtain ⟨rfl, rfl⟩ := Prod.mk.inj (Option.some.inj read)
      obtain ⟨more', rfl, behind⟩ := quoted_escape same
      obtain ⟨rest', read', after', shorter⟩ := ih behind others
      exact ⟨rest', by rw [read_units_escape known other, read']; rfl, after', by simp; omega⟩
  | case8 c more quote _ _ visible units after others ih =>
      obtain ⟨slash, visible⟩ : c ≠ '\\' ∧ ¬ c.toNat < 32 := by simpa using visible
      obtain ⟨rfl, rfl⟩ := Prod.mk.inj (Option.some.inj read)
      obtain ⟨more', rfl, behind⟩ := quoted_next quote same
      rw [if_neg (by simpa using slash)] at behind
      obtain ⟨rest', read', after', shorter⟩ := ih behind others
      exact ⟨rest', by rw [read_units_plain quote slash visible, read']; rfl,
        after', by simp; omega⟩
  | case4 => cases read
  | case6 => cases read
  | case7 => cases read
  | case9 => cases read

theorem read_text_respaced {found : Option String}
    (same : lexemes .quoted text = lexemes .quoted text')
    (read : readText text = some (found, rest)) :
    ∃ rest', readText text' = some (found, rest') ∧ Respaced rest rest' ∧
      rest'.length ≤ text'.length := by
  obtain ⟨⟨units, after⟩, quoted, shown⟩ := Option.map_eq_some_iff.1 read
  obtain ⟨rfl, rfl⟩ := Prod.mk.inj shown
  obtain ⟨rest', read', others, shorter⟩ := read_units_respaced same quoted
  exact ⟨rest', by rw [readText, read']; rfl, others, shorter⟩

end Texts

end Resemblance.Json
