import Mathlib
import Resemblance.Bleu
import Resemblance.Proofs.LineComments

/-!
Tokens and the white space between them. A text has certain tokens exactly where they stand in it
one behind the other, with nothing but white space around them; how much of it there is does not
count, as long as no two words meet. So texts can be cut anywhere but inside a word, and tokens can
be joined again by any white space.
-/

namespace Resemblance

namespace Token

open Text

/-- The tokens stand in a text in their order, with nothing but white space around them. -/
inductive Spaced : List (List Char) → List Char → Prop
  | blank {gap : List Char} (blank : isAllBlank gap = true) : Spaced [] gap
  | token {gap token rest : List Char} {tokens : List (List Char)} (blank : isAllBlank gap = true)
      (isToken : IsToken gap token rest) (spaced : Spaced tokens rest) :
      Spaced (token :: tokens) (gap ++ (token ++ rest))

section Gaps

variable {gap rest : List Char}

theorem not_starts_word_of_all_blank (blank : isAllBlank gap = true) : startsWord gap = false := by
  cases gap with
  | nil => rfl
  | cons c more =>
      rw [isAllBlank, List.all_cons, Bool.and_eq_true] at blank
      exact not_word_of_blank blank.1

theorem not_starts_word_of_blank (blank : isAllBlank gap = true) (filled : gap ≠ []) :
    startsWord (gap ++ rest) = false := by
  rw [starts_word_append filled]
  exact not_starts_word_of_all_blank blank

theorem not_ends_word_of_blank (blank : isAllBlank gap = true) : endsWord gap = false := by
  induction gap with
  | nil => rfl
  | cons c more ih =>
      rw [isAllBlank, List.all_cons, Bool.and_eq_true] at blank
      by_cases last : more = []
      · rw [last]
        exact not_word_of_blank blank.1
      · rw [ends_word_cons c last]
        exact ih blank.2

theorem gap_empty_of_word (blank : isAllBlank gap = true)
    (letter : startsWord (gap ++ rest) = true) :
    gap = [] := by
  by_contra filled
  rw [not_starts_word_of_blank blank filled] at letter
  cases letter

end Gaps

section Tokens

variable {before token after : List Char}

theorem IsToken.chop_eq (isToken : IsToken before token after) : chop token = [token] := by
  cases isToken with
  | sign other visible => exact chop_sign other visible
  | word filled run left right =>
      clear left right
      induction token with
      | nil => contradiction
      | cons c more ih =>
          have letter : isWordChar c = true := run c (by simp)
          rw [chop, if_pos letter]
          cases more with
          | nil => rfl
          | cons d others =>
              have next : startsWord (d :: others) = true := run d (by simp)
              rw [if_pos next, ih (List.cons_ne_nil d others) fun e member =>
                run e (by simp [member])]
              rfl

theorem IsToken.stops (isToken : IsToken before token after) :
    endsWord token = true → startsWord after = false := by
  cases isToken with
  | word filled run left right => exact fun _ => right
  | sign other visible =>
      intro letter
      rw [endsWord, other] at letter
      cases letter

theorem IsToken.moved (isToken : IsToken before token after) {rest : List Char}
    (stops : startsWord rest = false) : IsToken [] token rest := by
  cases isToken with
  | word filled run left right => exact .word filled run rfl stops
  | sign other visible => exact .sign other visible

theorem IsToken.extended (isToken : IsToken before token after) {c : Char}
    (letter : isWordChar c = true) (first : startsWord (token ++ after) = true) :
    IsToken [] (c :: token) after := by
  cases isToken with
  | sign other visible =>
      rw [List.singleton_append, startsWord, other] at first
      cases first
  | word filled run left right =>
      apply IsToken.word (List.cons_ne_nil c token) _ rfl right
      intro d member
      rcases List.mem_cons.1 member with rfl | member
      · exact letter
      · exact run d member

end Tokens

section Chopping

variable {tokens : List (List Char)} {text : List Char}

theorem Spaced.first {token rest : List Char} (isToken : IsToken [] token rest)
    (spaced : Spaced tokens rest) : Spaced (token :: tokens) (token ++ rest) :=
  Spaced.token rfl isToken spaced

theorem Spaced.behind_blank (spaced : Spaced tokens text) {c : Char} (blank : isBlank c = true) :
    Spaced tokens (c :: text) := by
  have wider {gap : List Char} (all : isAllBlank gap = true) : isAllBlank (c :: gap) = true := by
    rw [isAllBlank, List.all_cons, blank]
    exact all
  cases spaced with
  | blank all => exact .blank (wider all)
  | token all isToken rest =>
      apply Spaced.token (wider all) _ rest
      apply isToken.behind
      intro _ letter
      rw [not_word_of_blank blank] at letter
      cases letter

theorem Spaced.glued (spaced : Spaced tokens text) {c : Char} (letter : isWordChar c = true)
    (first : startsWord text = true) : Spaced (glue c tokens) (c :: text) := by
  cases spaced with
  | blank all =>
      rw [not_starts_word_of_all_blank all] at first
      cases first
  | @token gap token rest tokens all isToken later =>
      obtain rfl := gap_empty_of_word all first
      exact .first (isToken.extended letter first) later

theorem spaced_chop (text : List Char) : Spaced (chop text) text := by
  induction text with
  | nil => exact .blank rfl
  | cons c rest ih =>
      rw [chop]
      cases letter : isWordChar c with
      | true =>
          cases first : startsWord rest with
          | true => exact ih.glued letter first
          | false =>
              apply Spaced.first _ ih
              exact .word (List.cons_ne_nil c []) (by simpa using letter) rfl first
      | false =>
          cases blank : isBlank c with
          | true => exact ih.behind_blank blank
          | false => exact .first (.sign letter blank) ih

theorem Spaced.chop_eq (spaced : Spaced tokens text) : chop text = tokens := by
  induction spaced with
  | blank all => exact chop_all_blank all
  | @token gap token rest tokens all isToken later ih =>
      have apart : endsWord gap = true → startsWord (token ++ rest) = false := by
        rw [not_ends_word_of_blank all]
        exact nofun
      rw [chop_append gap apart, chop_append token isToken.stops, chop_all_blank all,
        isToken.chop_eq, ih]
      rfl

/-- A text has certain tokens exactly where they stand in it with white space around them. -/
theorem chop_eq_iff : chop text = tokens ↔ Spaced tokens text := by
  constructor
  · rintro rfl
    exact spaced_chop text
  · exact Spaced.chop_eq

end Chopping

section Seams

theorem glue_length (c : Char) {tokens : List (List Char)} (some : tokens ≠ []) :
    (glue c tokens).length = tokens.length := by
  cases tokens with
  | nil => contradiction
  | cons token more => rfl

theorem chop_ne_nil {text : List Char} (letter : startsWord text = true) : chop text ≠ [] := by
  obtain ⟨token, more, begins⟩ := chop_word letter
  rw [begins]
  exact List.cons_ne_nil token more

/-- Where a word goes on from one text to the next, the two together have a token less. -/
theorem chop_append_joined {first second : List Char} (last : endsWord first = true)
    (next : startsWord second = true) :
    (chop (first ++ second)).length + 1 = (chop first).length + (chop second).length := by
  induction first with
  | nil => cases last
  | cons c rest ih =>
      by_cases single : rest = []
      · subst single
        have letter : isWordChar c = true := last
        rw [List.singleton_append, chop, chop, if_pos letter, if_pos letter, if_pos next,
          glue_length c (chop_ne_nil next), Nat.add_comm]
        rfl
      · have joined := ih (by rwa [ends_word_cons c single] at last)
        have same : startsWord (rest ++ second) = startsWord rest :=
          starts_word_append single second
        rw [List.cons_append, chop, chop, same]
        cases letter : isWordChar c with
        | false =>
            cases blank : isBlank c with
            | true => exact joined
            | false =>
                simp only [Bool.false_eq_true, if_false, List.length_cons]
                omega
        | true =>
            cases first : startsWord rest with
            | false =>
                simp only [if_true, Bool.false_eq_true, if_false, List.length_cons]
                omega
            | true =>
                rw [if_pos rfl, if_pos rfl, if_pos rfl, if_pos rfl,
                  glue_length c (chop_ne_nil (same.trans first)), glue_length c (chop_ne_nil first)]
                exact joined

theorem chop_append_iff {first second : List Char} :
    chop (first ++ second) = chop first ++ chop second ↔
      ¬(endsWord first = true ∧ startsWord second = true) := by
  constructor
  · rintro equal ⟨last, next⟩
    have joined := chop_append_joined last next
    rw [equal, List.length_append] at joined
    omega
  · intro apart
    apply chop_append
    intro last
    exact Bool.eq_false_iff.2 fun next => apart ⟨last, next⟩

end Seams

section Joining

/-- Tokens with one of the separators behind each but the last. -/
def joinLists (separators : List (List Char)) : List (List Char) → List Char
  | [] => []
  | token :: tokens => token ++ (List.zipWith (· ++ ·) separators tokens).flatten

def Separates (separator : List Char) : Prop :=
  separator ≠ [] ∧ isAllBlank separator = true

theorem join_lists_cons (separator : List Char) (separators : List (List Char))
    (token next : List Char) (tokens : List (List Char)) :
    joinLists (separator :: separators) (token :: next :: tokens) =
      token ++ (separator ++ joinLists separators (next :: tokens)) := by
  simp [joinLists]

theorem Spaced.behind_gap {tokens : List (List Char)} {gap text : List Char}
    (spaced : Spaced tokens text) (blank : isAllBlank gap = true) :
    Spaced tokens (gap ++ text) := by
  induction gap with
  | nil => exact spaced
  | cons c more ih =>
      rw [isAllBlank, List.all_cons, Bool.and_eq_true] at blank
      exact (ih blank.2).behind_blank blank.1

/-- Tokens of a text, joined by white space, are the tokens of what results. -/
theorem Spaced.joined {tokens : List (List Char)} {text : List Char} (spaced : Spaced tokens text)
    {separators : List (List Char)} (blank : ∀ separator ∈ separators, Separates separator)
    (enough : tokens.length ≤ separators.length + 1) :
    Spaced tokens (joinLists separators tokens) := by
  induction spaced generalizing separators with
  | blank all => exact .blank rfl
  | @token gap token rest tokens all isToken later ih =>
      cases tokens with
      | nil =>
          have alone : joinLists separators [token] = token ++ [] := by simp [joinLists]
          rw [alone]
          exact .first (isToken.moved rfl) (.blank rfl)
      | cons next more =>
          cases separators with
          | nil => simp at enough
          | cons separator others =>
              obtain ⟨filled, white⟩ := blank separator (by simp)
              have following : Spaced (next :: more) (joinLists others (next :: more)) := by
                apply ih
                · exact fun other member => blank other (.tail _ member)
                · simpa using enough
              rw [join_lists_cons]
              apply Spaced.first
              · exact isToken.moved (not_starts_word_of_blank white filled)
              · exact following.behind_gap white

def joined (separators : List String) : List String → String
  | [] => ""
  | token :: tokens => token ++ String.join (List.zipWith (· ++ ·) separators tokens)

theorem to_list_joined (separators : List String) (tokens : List (List Char)) :
    (joined separators (tokens.map String.ofList)).toList =
      joinLists (separators.map String.toList) tokens := by
  have later (tokens : List (List Char)) :
      (String.join (List.zipWith (· ++ ·) separators (tokens.map String.ofList))).toList =
        (List.zipWith (· ++ ·) (separators.map String.toList) tokens).flatten := by
    induction separators generalizing tokens with
    | nil => simp
    | cons separator others ih =>
        cases tokens with
        | nil => simp
        | cons token tokens => simp [String.join_cons, ih]
  cases tokens with
  | nil => rfl
  | cons token tokens =>
      rw [List.map_cons, joined, joinLists, String.toList_append, String.toList_ofList, later]

end Joining

/-- The tokens of two texts, one behind the other, are those of each exactly where no word goes on
from one to the next. Tokens joined by any white space are the tokens of what results, and all texts
with the same tokens are made of them and of white space. So the score of two texts is that of any
others with these tokens, however they are spaced. -/
theorem tokens_kept_by_cuts_and_spacing :
    (∀ first second : String,
      tokens (first ++ second) = tokens first ++ tokens second ↔
        ¬(endsWord first.toList = true ∧ startsWord second.toList = true)) ∧
    (∀ (text : String) (separators : List String),
      (∀ separator ∈ separators, separator ≠ "" ∧ ∀ c ∈ separator.toList, isBlank c = true) →
        (tokens text).length ≤ separators.length + 1 →
          tokens (joined separators (tokens text)) = tokens text) ∧
    (∀ text other : String,
      tokens other = tokens text ↔ Spaced ((tokens text).map String.toList) other.toList) ∧
    ∀ (maxOrder : Nat) (library : Elementary) (reference candidate reference' candidate' : String),
      Spaced ((tokens reference).map String.toList) reference'.toList →
        Spaced ((tokens candidate).map String.toList) candidate'.toList →
          Bleu.score maxOrder reference' candidate' library =
            Bleu.score maxOrder reference candidate library := by
  have lists (text : String) : (tokens text).map String.toList = chop text.toList := by
    simp [tokens, Function.comp_def]
  have same_iff (text other : String) :
      tokens other = tokens text ↔ Spaced ((tokens text).map String.toList) other.toList := by
    rw [lists, ← chop_eq_iff, ← lists, ← lists, List.map_inj_right fun _ _ => String.toList_inj.1]
  refine ⟨?_, ?_, same_iff, ?_⟩
  · intro first second
    rw [← chop_append_iff, ← String.toList_append, ← lists, ← lists, ← lists, ← List.map_append,
      List.map_inj_right fun _ _ => String.toList_inj.1]
  · intro text separators blank enough
    rw [same_iff, lists, tokens, to_list_joined]
    apply (spaced_chop text.toList).joined
    · intro separator member
      obtain ⟨source, listed, rfl⟩ := List.mem_map.1 member
      obtain ⟨filled, white⟩ := blank source listed
      constructor
      · exact fun empty => filled (String.toList_inj.1 empty)
      · exact List.all_eq_true.2 white
    · simpa [tokens] using enough
  · intro maxOrder library reference candidate reference' candidate' spaced spaced'
    rw [Bleu.score, Bleu.score, (same_iff reference reference').2 spaced,
      (same_iff candidate candidate').2 spaced']

/-- A sum whose three tokens stand on two lines, and a word that is cut in two. -/
theorem respaced_sum_keeps_tokens :
    tokens (joined ["\t", "\n"] (tokens "a+b")) = ["a", "+", "b"] ∧
      Bleu.score 4 (joined ["\t", "\n"] (tokens "a+b")) "a+b" = Bleu.score 4 "a+b" "a+b" ∧
      tokens ("sum" ++ "med") ≠ tokens "sum" ++ tokens "med" := by
  obtain ⟨cut, spaced, same, score⟩ := tokens_kept_by_cuts_and_spacing
  have three : tokens "a+b" = ["a", "+", "b"] := by decide
  have blank : ∀ separator ∈ ["\t", "\n"],
      separator ≠ "" ∧ ∀ c ∈ separator.toList, isBlank c = true := by
    simp [isBlank]
  have kept := spaced "a+b" ["\t", "\n"] blank (by decide)
  refine ⟨by rw [kept, three], ?_, fun equal => (cut "sum" "med").1 equal (by decide)⟩
  apply score 4 .platform
  · exact (same "a+b" _).1 kept
  · exact (same "a+b" "a+b").1 rfl

end Token

end Resemblance
