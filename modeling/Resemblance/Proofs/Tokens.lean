import Mathlib
import Resemblance.Proofs.Deletion
import Resemblance.Token

/-!
What the tokens of a text are, said without the way they are found: words that cannot be extended
and single signs, one after the other, with nothing but white space outside of them. A text has one
such cutting, and chopping yields it. Texts that do not join a word can be chopped one by one.
-/

namespace Resemblance

namespace Text

def Ranges.apart (ranges others : Ranges) : Bool :=
  ranges.all fun range => others.all fun other => range.2 < other.1 || other.2 < range.1

theorem Ranges.not_contains_of_apart {ranges others : Ranges}
    (separate : ranges.apart others = true) {c : Char} (found : others.contains c = true) :
    ranges.contains c = false := by
  obtain ⟨other, listed, above, below⟩ := (others.contains_iff c).1 found
  rw [Bool.eq_false_iff]
  intro both
  obtain ⟨range, member, low, high⟩ := (ranges.contains_iff c).1 both
  have disjoint := List.all_eq_true.1 (List.all_eq_true.1 separate range member) other listed
  simp only [Bool.or_eq_true, decide_eq_true_eq] at disjoint
  omega

theorem alphabetic_apart_blank : alphabeticRanges.apart blankRanges = true := by
  decide +kernel

theorem numeric_apart_blank : numericRanges.apart blankRanges = true := by
  decide +kernel

theorem code_of_small_blank {c : Char} (small : c.toNat < 0x80) (blank : isBlank c = true) :
    c.toNat = 32 ∨ 9 ≤ c.toNat ∧ c.toNat ≤ 13 := by
  rw [isBlank, if_pos small] at blank
  simp only [Bool.or_eq_true, beq_iff_eq, Bool.and_eq_true, decide_eq_true_eq] at blank
  rcases blank with rfl | control
  · exact Or.inl rfl
  · exact Or.inr control

theorem not_alphanumeric_of_blank {c : Char} (blank : isBlank c = true) :
    isAlphanumeric c = false := by
  rw [isAlphanumeric, isAlphabetic, isNumeric]
  by_cases small : c.toNat < 0x80
  · have code := code_of_small_blank small blank
    rw [if_pos small, if_pos small, ← Bool.not_eq_true]
    simp only [Char.isAlpha, Char.isUpper, Char.isLower, Char.isDigit, Bool.or_eq_true,
      Bool.and_eq_true, decide_eq_true_eq, UInt32.le_iff_toNat_le, ge_iff_le]
    change ¬(((65 ≤ c.toNat ∧ c.toNat ≤ 90) ∨ (97 ≤ c.toNat ∧ c.toNat ≤ 122)) ∨
      (48 ≤ c.toNat ∧ c.toNat ≤ 57))
    omega
  · rw [isBlank, if_neg small] at blank
    rw [if_neg small, if_neg small, Ranges.not_contains_of_apart alphabetic_apart_blank blank,
      Ranges.not_contains_of_apart numeric_apart_blank blank, Bool.or_false]

theorem utf8_byte_size_eq_bytes (cs : List Char) : (String.ofList cs).utf8ByteSize = bytes cs := by
  induction cs with
  | nil => rfl
  | cons c rest ih =>
      rw [bytes, ← ih, String.utf8ByteSize, String.toByteArray_ofList, List.utf8Encode_cons,
        ByteArray.size_append, List.utf8Encode_singleton]
      simp [String.utf8ByteSize]

theorem valid_end {text : String} {before after : List Char}
    (split : text.toList = before ++ after) : (⟨bytes before⟩ : String.Pos.Raw).IsValid text := by
  refine String.Pos.Raw.isValid_iff_exists_append.2
    ⟨String.ofList before, String.ofList after, ?_, ?_⟩
  · rw [← String.ofList_append, ← split, String.ofList_toList]
  · rw [String.rawEndPos, utf8_byte_size_eq_bytes]

end Text

namespace Token

open Text

theorem not_word_of_blank {c : Char} (blank : isBlank c = true) : isWordChar c = false := by
  have underscore : (c == '_') = false := by
    rw [beq_eq_false_iff_ne]
    rintro rfl
    revert blank
    decide
  rw [isWordChar, not_alphanumeric_of_blank blank, underscore, Bool.or_false]

theorem not_blank_of_word {c : Char} (letter : isWordChar c = true) : isBlank c = false := by
  rw [Bool.eq_false_iff]
  intro blank
  rw [not_word_of_blank blank] at letter
  cases letter

def endsWord : List Char → Bool
  | [] => false
  | [c] => isWordChar c
  | _ :: rest => endsWord rest

theorem ends_word_cons (c : Char) {rest : List Char} (filled : rest ≠ []) :
    endsWord (c :: rest) = endsWord rest := by
  cases rest with
  | nil => exact absurd rfl filled
  | cons d more => rfl

theorem ends_word_append (before : List Char) {cs : List Char} (filled : cs ≠ []) :
    endsWord (before ++ cs) = endsWord cs := by
  induction before with
  | nil => rfl
  | cons c rest ih =>
      rw [List.cons_append, ends_word_cons c (List.append_ne_nil_of_right_ne_nil rest filled), ih]

theorem ends_word_of_run {cs : List Char} (filled : cs ≠ [])
    (run : ∀ c ∈ cs, isWordChar c = true) : endsWord cs = true := by
  induction cs with
  | nil => exact absurd rfl filled
  | cons c rest ih =>
      cases rest with
      | nil => exact run c (by simp)
      | cons d more =>
          exact ih (List.cons_ne_nil d more) fun other member => run other (by simp [member])

/-- What stands behind `before` and in front of `after` is one token: a run of word characters that
cannot be extended, or a single sign. -/
inductive IsToken (before : List Char) : List Char → List Char → Prop
  | word {token after : List Char} (filled : token ≠ [])
      (run : ∀ c ∈ token, isWordChar c = true) (left : endsWord before = false)
      (right : startsWord after = false) : IsToken before token after
  | sign {c : Char} {after : List Char} (other : isWordChar c = false)
      (visible : isBlank c = false) : IsToken before [c] after

structure Piece where
  start : Nat
  token : List Char
  deriving DecidableEq

def Piece.stop (piece : Piece) : Nat :=
  piece.start + bytes piece.token

/-- The piece stands as a token in a text that begins at an offset. Both its ends fall between
characters. -/
def Piece.StandsIn (start : Nat) (text : List Char) (piece : Piece) : Prop :=
  ∃ before after, text = before ++ (piece.token ++ after) ∧
    piece.start = start + bytes before ∧ IsToken before piece.token after

/-- The pieces are tokens of a text that begins at an offset, one behind the other, and what lies in
none of them is white space. -/
structure Cutting (start : Nat) (text : List Char) (pieces : List Piece) : Prop where
  apart : pieces.Pairwise fun a b => a.stop ≤ b.start
  tokens : ∀ piece ∈ pieces, piece.StandsIn start text
  rest : ∀ before c after, text = before ++ c :: after →
    (∀ piece ∈ pieces, ¬(piece.start ≤ start + bytes before ∧ start + bytes before < piece.stop)) →
      isWordChar c = false ∧ isBlank c = true

section Uniqueness

variable {before token after before' token' after' : List Char}

theorem IsToken.filled (isToken : IsToken before token after) : token ≠ [] := by
  cases isToken with
  | word filled run left right => exact filled
  | sign other visible => exact List.cons_ne_nil _ _

theorem IsToken.visible (isToken : IsToken before token after) :
    ∀ c ∈ token, isBlank c = false := by
  cases isToken with
  | word filled run left right => exact fun c member => not_blank_of_word (run c member)
  | sign other visible => simpa using visible

theorem take_word_eq (run : ∀ c ∈ token, isWordChar c = true) (right : startsWord after = false) :
    (token ++ after).takeWhile isWordChar = token := by
  rw [List.takeWhile_append_of_pos run]
  cases after with
  | nil => simp
  | cons c rest =>
      have stops : isWordChar c = false := right
      simp [stops]

theorem IsToken.eq_of_same_start (first : IsToken before token after)
    (second : IsToken before' token' after') (same : token ++ after = token' ++ after') :
    token = token' := by
  cases first with
  | word filled run left right =>
      cases second with
      | word filled' run' left' right' =>
          rw [← take_word_eq run right, ← take_word_eq run' right', same]
      | @sign c _ other visible =>
          obtain ⟨d, rest, rfl⟩ := List.exists_cons_of_ne_nil filled
          have equal : d = c := by simpa using congrArg List.head? same
          have letter := run d (by simp)
          rw [equal, other] at letter
          cases letter
  | @sign c _ other visible =>
      cases second with
      | word filled' run' left' right' =>
          obtain ⟨d, rest, rfl⟩ := List.exists_cons_of_ne_nil filled'
          have equal : c = d := by simpa using congrArg List.head? same
          have letter := run' d (by simp)
          rw [← equal, other] at letter
          cases letter
      | @sign d _ other' visible' =>
          have equal : c = d := by simpa using congrArg List.head? same
          rw [equal]

/-- A token that begins inside another one of the same text is that token. -/
theorem IsToken.eq_of_overlap (first : IsToken before token after)
    (second : IsToken before' token' after')
    (same : before ++ (token ++ after) = before' ++ (token' ++ after'))
    (behind : bytes before' ≤ bytes before)
    (inside : bytes before < bytes before' + bytes token') : before = before' ∧ token = token' := by
  obtain ⟨c, more, rfl⟩ := List.exists_cons_of_ne_nil first.filled
  obtain ⟨front, back, rfl, rfl, rest⟩ := split_inside same.symm behind inside
  by_cases nothing : front = []
  · subst nothing
    exact ⟨List.append_nil before', first.eq_of_same_start second (congrArg (List.cons c) rest)⟩
  · exfalso
    -- A sign has no room for two characters, so that all of the other token is a word.
    have run : ∀ d ∈ front ++ c :: back, isWordChar d = true := by
      generalize whole : front ++ c :: back = cs at second
      cases second with
      | word filled run left right => exact run
      | @sign d _ other visible =>
          have counted := congrArg List.length whole
          have long := List.length_pos_of_ne_nil nothing
          rw [List.length_append, List.length_cons, List.length_singleton] at counted
          omega
    cases first with
    | word filled run' left right =>
        rw [ends_word_append before' nothing,
          ends_word_of_run nothing fun d member => run d (by simp [member])] at left
        cases left
    | sign other visible =>
        rw [run c (by simp)] at other
        cases other

end Uniqueness

variable {start : Nat} {text : List Char} {pieces others : List Piece}

/-- Every token of the text is among the pieces of a cutting: the piece at its first character is
it. -/
theorem Cutting.mem_of_stands (cutting : Cutting start text pieces) {piece : Piece}
    (stands : piece.StandsIn start text) : piece ∈ pieces := by
  obtain ⟨before, after, split, place, isToken⟩ := stands
  obtain ⟨c, more, begins⟩ := List.exists_cons_of_ne_nil isToken.filled
  have covered : ∃ other ∈ pieces,
      other.start ≤ start + bytes before ∧ start + bytes before < other.stop := by
    by_contra uncovered
    have blank := cutting.rest before c (more ++ after) (by rw [split, begins, List.cons_append])
      fun other member both => uncovered ⟨other, member, both⟩
    have visible := isToken.visible c (by simp [begins])
    rw [visible] at blank
    cases blank.2
  obtain ⟨other, member, below, above⟩ := covered
  obtain ⟨before', after', split', place', isToken'⟩ := cutting.tokens other member
  rw [Piece.stop, place'] at above
  rw [place'] at below
  obtain ⟨rfl, same⟩ := isToken.eq_of_overlap isToken' (split.symm.trans split') (by omega)
    (by omega)
  have equal : piece = other := by
    obtain ⟨first, token⟩ := piece
    obtain ⟨first', token'⟩ := other
    simp only at place place' same
    rw [place, place', same]
  rw [equal]
  exact member

theorem Cutting.start_lt_stop (cutting : Cutting start text pieces) {piece : Piece}
    (member : piece ∈ pieces) : piece.start < piece.stop := by
  obtain ⟨before, after, split, place, isToken⟩ := cutting.tokens piece member
  have wide := bytes_pos isToken.filled
  rw [Piece.stop]
  omega

theorem Cutting.increasing (cutting : Cutting start text pieces) :
    pieces.Pairwise fun a b => a.start < b.start :=
  cutting.apart.imp_of_mem fun member _ before =>
    Nat.lt_of_lt_of_le (cutting.start_lt_stop member) before

theorem Cutting.unique (cutting : Cutting start text pieces) (other : Cutting start text others) :
    pieces = others := by
  have sorted := cutting.increasing
  have sorted' := other.increasing
  have perm : pieces.Perm others := by
    have differ : ∀ {a b : Piece}, a.start < b.start → a ≠ b :=
      fun before => ne_of_apply_ne Piece.start (Nat.ne_of_lt before)
    apply (List.perm_ext_iff_of_nodup (sorted.imp differ) (sorted'.imp differ)).2
    intro piece
    exact ⟨fun member => other.mem_of_stands (cutting.tokens piece member),
      fun member => cutting.mem_of_stands (other.tokens piece member)⟩
  apply perm.eq_of_pairwise _ sorted sorted'
  intro a b _ _ before after
  exact absurd before (Nat.lt_asymm after)

def extend (start : Nat) (c : Char) : List Piece → List Piece
  | [] => [⟨start, [c]⟩]
  | piece :: pieces => ⟨start, c :: piece.token⟩ :: pieces

/-- The tokens of a text that begins at an offset, each with the offset at which it begins. -/
def piecesFrom (start : Nat) : List Char → List Piece
  | [] => []
  | c :: rest =>
      let later := piecesFrom (start + c.utf8Size) rest
      if isWordChar c then
        if startsWord rest then extend start c later else ⟨start, [c]⟩ :: later
      else if isBlank c then later
      else ⟨start, [c]⟩ :: later

theorem extend_tokens (start : Nat) (c : Char) (pieces : List Piece) :
    (extend start c pieces).map Piece.token = glue c (pieces.map Piece.token) := by
  cases pieces with
  | nil => rfl
  | cons piece more => rfl

theorem pieces_from_tokens (start : Nat) (text : List Char) :
    (piecesFrom start text).map Piece.token = chop text := by
  induction text generalizing start with
  | nil => rfl
  | cons c rest ih =>
      rw [piecesFrom, chop]
      split
      · split
        · rw [extend_tokens, ih]
        · rw [List.map_cons, ih]
      · split
        · exact ih _
        · rw [List.map_cons, ih]

section Existence

variable {c : Char} {rest : List Char} {pieces : List Piece}

theorem starts_word_append {token : List Char} (filled : token ≠ []) (after : List Char) :
    startsWord (token ++ after) = startsWord token := by
  obtain ⟨d, more, rfl⟩ := List.exists_cons_of_ne_nil filled
  rfl

theorem IsToken.behind {before token after : List Char} (isToken : IsToken before token after)
    (apart : before = [] → isWordChar c = true → startsWord token = false) :
    IsToken (c :: before) token after := by
  cases isToken with
  | sign other visible => exact .sign other visible
  | word filled run left right =>
      refine .word filled run ?_ right
      cases before with
      | cons d more => exact left
      | nil =>
          rw [← Bool.not_eq_true]
          intro letter
          obtain ⟨d, more, rfl⟩ := List.exists_cons_of_ne_nil filled
          have first : startsWord (d :: more) = true := run d (by simp)
          rw [apart rfl letter] at first
          cases first

/-- A piece of the rest of a text is one of the whole, unless it goes on with a word that the first
character begins. -/
theorem Piece.StandsIn.behind {piece : Piece} (stands : piece.StandsIn (start + c.utf8Size) rest)
    (apart : isWordChar c = true → startsWord rest = true → start + c.utf8Size < piece.start) :
    piece.StandsIn start (c :: rest) := by
  obtain ⟨before, after, rfl, place, isToken⟩ := stands
  refine ⟨c :: before, after, rfl, by rw [place, bytes, Nat.add_assoc], isToken.behind ?_⟩
  rintro rfl letter
  rw [← Bool.not_eq_true]
  intro first
  have later := apart letter (by rwa [List.nil_append, starts_word_append isToken.filled])
  rw [place, bytes] at later
  omega

theorem stands_alone (isToken : IsToken [] [c] rest) :
    Piece.StandsIn start (c :: rest) ⟨start, [c]⟩ :=
  ⟨[], rest, rfl, rfl, isToken⟩

theorem Cutting.start_le (cutting : Cutting start text pieces) {piece : Piece}
    (member : piece ∈ pieces) : start ≤ piece.start := by
  obtain ⟨before, after, split, place, isToken⟩ := cutting.tokens piece member
  omega

/-- What lies outside pieces that reach as far as those of the rest is white space, if the first
character is white space or lies in one of them. -/
theorem Cutting.rest_behind (cutting : Cutting (start + c.utf8Size) rest pieces)
    {wider : List Piece}
    (first : isWordChar c = false ∧ isBlank c = true ∨
      ∃ piece ∈ wider, piece.start ≤ start ∧ start < piece.stop)
    (reach : ∀ piece ∈ pieces, ∃ other ∈ wider, other.start ≤ piece.start ∧ piece.stop = other.stop)
    (before : List Char) (d : Char) (after : List Char) (split : c :: rest = before ++ d :: after)
    (outside : ∀ piece ∈ wider,
      ¬(piece.start ≤ start + bytes before ∧ start + bytes before < piece.stop)) :
    isWordChar d = false ∧ isBlank d = true := by
  cases before with
  | nil =>
      obtain ⟨rfl, -⟩ := List.cons.inj split
      rcases first with blank | ⟨piece, member, covers⟩
      · exact blank
      · exact absurd covers (outside piece member)
  | cons e more =>
      obtain ⟨rfl, later⟩ := List.cons.inj split
      apply cutting.rest more d after later
      intro piece member covers
      obtain ⟨other, listed, begins, ends⟩ := reach piece member
      apply outside other listed
      rw [bytes]
      omega

theorem Cutting.behind_blank (cutting : Cutting (start + c.utf8Size) rest pieces)
    (other : isWordChar c = false) (blank : isBlank c = true) :
    Cutting start (c :: rest) pieces where
  apart := cutting.apart
  tokens piece member := (cutting.tokens piece member).behind fun letter => by
    rw [other] at letter
    cases letter
  rest := cutting.rest_behind (Or.inl ⟨other, blank⟩)
    fun piece member => ⟨piece, member, Nat.le_refl _, rfl⟩

theorem Cutting.behind_token (cutting : Cutting (start + c.utf8Size) rest pieces)
    (isToken : IsToken [] [c] rest) (apart : isWordChar c = true → startsWord rest = false) :
    Cutting start (c :: rest) (⟨start, [c]⟩ :: pieces) where
  apart := List.pairwise_cons.2 ⟨fun piece member => cutting.start_le member, cutting.apart⟩
  tokens := by
    intro piece member
    rcases List.mem_cons.1 member with rfl | later
    · exact stands_alone isToken
    · refine (cutting.tokens piece later).behind fun letter first => ?_
      rw [apart letter] at first
      cases first
  rest := by
    have wide := c.utf8Size_pos
    refine cutting.rest_behind (Or.inr ⟨⟨start, [c]⟩, by simp, Nat.le_refl _, ?_⟩)
      fun piece member => ⟨piece, List.mem_cons_of_mem _ member, Nat.le_refl _, rfl⟩
    simp only [Piece.stop, bytes]
    omega

theorem Cutting.behind_word {token : List Char}
    (cutting : Cutting (start + c.utf8Size) rest (⟨start + c.utf8Size, token⟩ :: pieces))
    (letter : isWordChar c = true) (first : startsWord rest = true) :
    Cutting start (c :: rest) (⟨start, c :: token⟩ :: pieces) := by
  obtain ⟨apart, sorted⟩ := List.pairwise_cons.1 cutting.apart
  have stop : Piece.stop ⟨start, c :: token⟩ = Piece.stop ⟨start + c.utf8Size, token⟩ := by
    rw [Piece.stop, Piece.stop, bytes, Nat.add_assoc]
  have long := cutting.start_lt_stop (List.mem_cons_self ..)
  refine ⟨List.pairwise_cons.2 ⟨?_, sorted⟩, ?_, ?_⟩
  · intro piece member
    rw [stop]
    exact apart piece member
  · intro piece member
    rcases List.mem_cons.1 member with rfl | later
    · obtain ⟨before, after, split, place, isToken⟩ := cutting.tokens _ (List.mem_cons_self ..)
      have nothing : before = [] := by
        by_contra filled
        have wide := bytes_pos filled
        simp only at place
        omega
      subst nothing
      refine ⟨[], after, by rw [split]; rfl, rfl, ?_⟩
      rw [split, List.nil_append, starts_word_append isToken.filled] at first
      cases isToken with
      | word filled run left right =>
          exact .word (List.cons_ne_nil _ _) (List.forall_mem_cons.2 ⟨letter, run⟩) rfl right
      | @sign d _ other visible =>
          have contradiction : isWordChar d = true := first
          rw [other] at contradiction
          cases contradiction
    · refine (cutting.tokens piece (List.mem_cons_of_mem _ later)).behind fun _ _ => ?_
      exact Nat.lt_of_lt_of_le long (apart piece later)
  · refine cutting.rest_behind (Or.inr ⟨_, List.mem_cons_self .., Nat.le_refl _, ?_⟩) ?_
    · rw [stop]
      exact Nat.lt_of_le_of_lt (Nat.le_add_right _ _) long
    · intro piece member
      rcases List.mem_cons.1 member with rfl | later
      · exact ⟨_, List.mem_cons_self .., Nat.le_add_right _ _, stop.symm⟩
      · exact ⟨piece, List.mem_cons_of_mem _ later, Nat.le_refl _, rfl⟩

theorem pieces_from_word (start : Nat) {text : List Char} (letter : startsWord text = true) :
    ∃ token more, piecesFrom start text = ⟨start, token⟩ :: more := by
  cases text with
  | nil => cases letter
  | cons c rest =>
      have first : isWordChar c = true := letter
      rw [piecesFrom, if_pos first]
      split
      · cases piecesFrom (start + c.utf8Size) rest with
        | nil => exact ⟨_, _, rfl⟩
        | cons piece more => exact ⟨_, _, rfl⟩
      · exact ⟨_, _, rfl⟩

theorem pieces_from_cutting (start : Nat) (text : List Char) :
    Cutting start text (piecesFrom start text) := by
  induction text generalizing start with
  | nil =>
      refine ⟨List.Pairwise.nil, fun piece member => absurd member List.not_mem_nil, ?_⟩
      intro before c after split
      simp at split
  | cons c rest ih =>
      have cutting := ih (start + c.utf8Size)
      rw [piecesFrom]
      cases letter : isWordChar c with
      | true =>
          cases first : startsWord rest with
          | true =>
              obtain ⟨token, more, begins⟩ := pieces_from_word _ first
              rw [begins] at cutting ⊢
              exact cutting.behind_word letter first
          | false =>
              refine cutting.behind_token (.word (List.cons_ne_nil c []) ?_ rfl first)
                fun _ => first
              simpa using letter
      | false =>
          cases blank : isBlank c with
          | true => exact cutting.behind_blank letter blank
          | false =>
              refine cutting.behind_token (.sign letter blank) fun other => ?_
              rw [letter] at other
              cases other

theorem Piece.StandsIn.valid_ends {text : String} {piece : Piece}
    (stands : piece.StandsIn 0 text.toList) :
    (⟨piece.start⟩ : String.Pos.Raw).IsValid text ∧
      (⟨piece.stop⟩ : String.Pos.Raw).IsValid text := by
  obtain ⟨before, after, split, place, isToken⟩ := stands
  rw [Nat.zero_add] at place
  refine ⟨by rw [place]; exact valid_end split, ?_⟩
  rw [Piece.stop, place, ← bytes_append]
  exact valid_end (by rw [split, List.append_assoc])

end Existence

theorem join_of_lists (tokens : List (List Char)) :
    String.join (tokens.map String.ofList) = String.ofList tokens.flatten := by
  induction tokens with
  | nil => simp
  | cons token rest ih =>
      rw [List.map_cons, String.join_cons, ih, List.flatten_cons, String.ofList_append]

theorem glue_flatten (c : Char) (tokens : List (List Char)) :
    (glue c tokens).flatten = c :: tokens.flatten := by
  cases tokens with
  | nil => rfl
  | cons token more => rfl

theorem chop_flatten (text : List Char) :
    (chop text).flatten = text.filter fun c => !isBlank c := by
  induction text with
  | nil => rfl
  | cons c rest ih =>
      rw [chop]
      cases letter : isWordChar c with
      | true =>
          rw [if_pos rfl, List.filter_cons_of_pos (by rw [not_blank_of_word letter]; rfl), ← ih]
          split
          · exact glue_flatten c (chop rest)
          · rfl
      | false =>
          cases blank : isBlank c with
          | true => simpa [blank] using ih
          | false => simpa [blank] using ih

theorem chop_word {text : List Char} (letter : startsWord text = true) :
    ∃ token more, chop text = token :: more := by
  obtain ⟨token, more, begins⟩ : ∃ token more, piecesFrom 0 text = ⟨0, token⟩ :: more :=
    pieces_from_word 0 letter
  refine ⟨token, more.map Piece.token, ?_⟩
  rw [← pieces_from_tokens 0, begins, List.map_cons]

theorem chop_append (first : List Char) {second : List Char}
    (apart : endsWord first = true → startsWord second = false) :
    chop (first ++ second) = chop first ++ chop second := by
  induction first with
  | nil => rfl
  | cons c rest ih =>
      have later : chop (rest ++ second) = chop rest ++ chop second := by
        cases rest with
        | nil => rfl
        | cons d more => exact ih apart
      rw [List.cons_append, chop, chop, later]
      cases letter : isWordChar c with
      | false =>
          cases blank : isBlank c with
          | true => rfl
          | false => rfl
      | true =>
          rw [if_pos rfl, if_pos rfl]
          cases rest with
          | nil =>
              rw [List.nil_append, apart letter]
              rfl
          | cons d more =>
              rw [starts_word_append (List.cons_ne_nil d more)]
              cases first : startsWord (d :: more) with
              | false => rfl
              | true =>
                  obtain ⟨token, tokens, begins⟩ := chop_word first
                  rw [begins]
                  rfl

/-- The tokens of a text are its only cutting: words that cannot be extended and single signs, in
order and apart from each other, with white space between them. All of them begin and end between
characters, and put together they are the text without its white space. -/
theorem tokens_are_the_only_cutting (text : String) :
    let pieces := piecesFrom 0 text.toList
    pieces.map (fun piece => String.ofList piece.token) = tokens text ∧
      Cutting 0 text.toList pieces ∧
      (∀ others, Cutting 0 text.toList others → others = pieces) ∧
      (∀ piece ∈ pieces, (⟨piece.start⟩ : String.Pos.Raw).IsValid text ∧
        (⟨piece.stop⟩ : String.Pos.Raw).IsValid text) ∧
      String.join (tokens text) = String.ofList (text.toList.filter fun c => !isBlank c) := by
  intro pieces
  have cutting : Cutting 0 text.toList pieces := pieces_from_cutting 0 text.toList
  refine ⟨?_, cutting, fun others other => other.unique cutting,
    fun piece member => (cutting.tokens piece member).valid_ends, ?_⟩
  · rw [tokens, ← pieces_from_tokens 0, List.map_map]
    rfl
  · rw [tokens, ← chop_flatten, join_of_lists]

end Token
end Resemblance
