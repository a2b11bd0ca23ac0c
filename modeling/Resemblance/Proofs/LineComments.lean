import Resemblance.Proofs.Outermost
import Resemblance.Proofs.Tokens
import Resemblance.Vocabulary

/-!
Two ways to remove comments: the comment nodes of a parse tree, or all that follows a number sign on
its line. Where number signs stand in comments only, and comments run to the end of their line, both
leave the same tokens. Both are compared with a text in which every line stops at its first number
sign.
-/

namespace Resemblance

open Text Token

namespace Text

def atLineEnd : List Char → Bool
  | [] => true
  | c :: rest => c == '\n' || c == '\r' && rest.head? == some '\n'

/-- The text without what follows a number sign on its line, where `inside` tells whether such a
sign stands before the text. -/
def stopLines (inside : Bool) : List Char → List Char
  | [] => []
  | c :: rest =>
      if c = '\n' then c :: stopLines false rest
      else if inside || c == '#' then stopLines true rest
      else c :: stopLines false rest

end Text

namespace Token

/-- Texts with the same tokens, which can replace each other behind any character. -/
structure Alike (first second : List Char) : Prop where
  tokens : chop first = chop second
  start : startsWord first = startsWord second

theorem Alike.cons {first second : List Char} (alike : Alike first second) (c : Char) :
    Alike (c :: first) (c :: second) where
  tokens := by rw [chop, chop, alike.tokens, alike.start]
  start := rfl

theorem Alike.blank {first second : List Char} (alike : Alike first second) {c : Char}
    (blank : isBlank c = true) (apart : startsWord second = false) : Alike (c :: first) second where
  tokens := by rw [chop_blank (not_word_of_blank blank) blank, alike.tokens]
  start := by rw [apart, startsWord, not_word_of_blank blank]

theorem chop_all_blank {cs : List Char} (blank : isAllBlank cs = true) : chop cs = [] := by
  induction cs with
  | nil => rfl
  | cons c rest ih =>
      rw [isAllBlank, List.all_cons, Bool.and_eq_true] at blank
      rw [chop_blank (not_word_of_blank blank.1) blank.1]
      exact ih blank.2

theorem chop_blank_last (cs : List Char) {c : Char} (blank : isBlank c = true) :
    chop (cs ++ [c]) = chop cs := by
  have other := not_word_of_blank blank
  have apart : startsWord [c] = false := other
  rw [chop_append cs fun _ => apart, chop_blank other blank]
  exact List.append_nil _

end Token

namespace Vocabulary

def codeOf (line : List Char) : List Char :=
  line.takeWhile (· != '#')

theorem code_of_append {line : List Char} (clear : '#' ∉ line) (more : List Char) :
    codeOf (line ++ more) = line ++ codeOf more := by
  apply List.takeWhile_append_of_pos
  intro c member
  rw [bne_iff_ne]
  rintro rfl
  exact clear member

theorem code_of_append_stopped {line : List Char} (sign : '#' ∈ line) (more : List Char) :
    codeOf (line ++ more) = codeOf line := by
  induction line with
  | nil => exact absurd sign List.not_mem_nil
  | cons c rest ih =>
      rw [codeOf, codeOf, List.cons_append, List.takeWhile_cons, List.takeWhile_cons]
      split
      next other =>
        rw [bne_iff_ne] at other
        have later : '#' ∈ rest := (List.mem_cons.1 sign).resolve_left other.symm
        exact congrArg (List.cons c) (ih later)
      next stops => rfl

theorem chop_code_drop_return (line : List Char) :
    chop (codeOf (dropReturn line)) = chop (codeOf line) := by
  rw [dropReturn]
  split
  next rest reversed =>
    have whole : line = rest.reverse ++ ['\r'] := by
      rw [← List.reverse_reverse line, reversed, List.reverse_cons]
    rw [whole]
    by_cases sign : '#' ∈ rest.reverse
    · rw [code_of_append_stopped sign]
    · have plain := code_of_append sign []
      rw [List.append_nil] at plain
      rw [code_of_append sign, plain]
      exact (congrArg chop (List.append_nil _)).trans (chop_blank_last rest.reverse rfl).symm
  next other => rfl

theorem chop_join_lines (lines : List (List Char)) :
    chop (joinWith ['\n'] lines) = lines.flatMap chop := by
  induction lines with
  | nil => rfl
  | cons line rest ih =>
      cases rest with
      | nil => simp [joinWith]
      | cons next more =>
          have apart : startsWord ('\n' :: joinWith ['\n'] (next :: more)) = false := rfl
          rw [joinWith.eq_3 _ _ _ (List.cons_ne_nil next more), List.append_assoc,
            List.singleton_append, chop_append line fun _ => apart, chop_blank rfl rfl, ih]
          rfl

theorem chop_filter_lines (lines : List (List Char)) :
    (lines.filter fun line => !isAllBlank line).flatMap chop = lines.flatMap chop := by
  induction lines with
  | nil => rfl
  | cons line rest ih =>
      cases blank : isAllBlank line with
      | true =>
          rw [List.filter_cons_of_neg (by simp [blank]), ih, List.flatMap_cons,
            chop_all_blank blank, List.nil_append]
      | false =>
          rw [List.filter_cons_of_pos (by simp [blank]), List.flatMap_cons, ih, List.flatMap_cons]

/-- The induction is on the text that is still to be read; what has been read of the current line
stands before it, cut at its first number sign. -/
theorem chop_lines_after (line cs : List Char) :
    ((linesAfter line cs).map codeOf).flatMap chop =
      chop (codeOf line.reverse ++ stopLines (decide ('#' ∈ line)) cs) := by
  induction cs generalizing line with
  | nil =>
      rw [stopLines, List.append_nil]
      cases line with
      | nil => rfl
      | cons c rest => simp [linesAfter]
  | cons c rest ih =>
      rw [linesAfter, stopLines]
      by_cases ends : c = '\n'
      · have apart : startsWord ('\n' :: stopLines false rest) = false := rfl
        have later := ih []
        rw [if_pos ends, if_pos ends, ends, chop_append _ fun _ => apart, chop_blank rfl rfl,
          List.map_cons, List.flatMap_cons, chop_code_drop_return, later]
        rfl
      · have later := ih (c :: line)
        rw [if_neg ends, if_neg ends, later, List.reverse_cons]
        by_cases sign : '#' ∈ line
        · have stopped := code_of_append_stopped (List.mem_reverse.2 sign) [c]
          simp [stopped, sign]
        · have clear := code_of_append (fun member => sign (List.mem_reverse.1 member)) [c]
          have plain := code_of_append (fun member => sign (List.mem_reverse.1 member)) []
          rw [List.append_nil] at plain
          rw [clear, plain]
          by_cases own : c = '#'
          · subst own
            simp [codeOf]
          · have other : '#' ≠ c := fun same => own same.symm
            simp [codeOf, own, other, sign]

theorem chop_without_line_comments (source : List Char) :
    chop (withoutLineComments source) = chop (stopLines false source) := by
  rw [withoutLineComments, chop_join_lines, chop_filter_lines, lines]
  exact chop_lines_after [] source

end Vocabulary

namespace SyntaxTree

def RunsToLineEnd (source : List Char) (node : Node) : Prop :=
  ∃ before body after, source = before ++ ('#' :: body ++ after) ∧ node.start = bytes before ∧
    node.stop = bytes before + bytes ('#' :: body) ∧ '\n' ∉ body ∧ atLineEnd after = true

/-- Number signs stand in comments only, and comments run from a number sign to the end of their
line. -/
structure LineCommented (source : List Char) (tree : SyntaxTree) : Prop where
  comments : ∀ node ∈ tree.nodes, node.isComment = true → RunsToLineEnd source node
  signs : ∀ entry ∈ placed 0 source, entry.2 = '#' →
    ∃ node ∈ tree.nodes, node.isComment = true ∧ node.covers entry.1 = true

def BehindSign (text : List Char) : Prop :=
  ∃ front back, text = front ++ '#' :: back ∧ '\n' ∉ back

theorem behind_sign_append (text : List Char) (c : Char) :
    BehindSign (text ++ [c]) ↔ c = '#' ∨ c ≠ '\n' ∧ BehindSign text := by
  constructor
  · rintro ⟨front, back, same, single⟩
    rcases List.eq_nil_or_concat back with rfl | ⟨more, last, rfl⟩
    · have equal := (List.append_inj' same rfl).2
      exact Or.inl (List.cons.inj equal).1
    · rw [List.concat_eq_append] at same single
      rw [← List.cons_append, ← List.append_assoc] at same
      obtain ⟨rfl, equal⟩ := List.append_inj' same rfl
      obtain ⟨rfl, -⟩ := List.cons.inj equal
      rw [List.mem_append, not_or] at single
      refine Or.inr ⟨?_, front, more, rfl, single.1⟩
      rintro rfl
      exact single.2 (by simp)
  · rintro (rfl | ⟨other, front, back, rfl, single⟩)
    · exact ⟨text, [], rfl, List.not_mem_nil⟩
    · refine ⟨front, back ++ [c], by simp, ?_⟩
      rw [List.mem_append, List.mem_singleton, not_or]
      exact ⟨single, Ne.symm other⟩

variable {source before after : List Char} {c : Char} {node : Node}

theorem RunsToLineEnd.behind_sign (runs : RunsToLineEnd source node)
    (split : source = before ++ c :: after) (covers : node.covers (bytes before) = true) :
    BehindSign (before ++ [c]) := by
  obtain ⟨front, body, back, rfl, start, stop, single, ends⟩ := runs
  rw [Node.covers_iff, start, stop] at covers
  obtain ⟨passed, ahead, rfl, inside, -⟩ := split_inside split covers.1 covers.2
  cases passed with
  | nil =>
      obtain ⟨rfl, -⟩ := List.cons.inj inside
      exact (behind_sign_append _ _).2 (Or.inl rfl)
  | cons d more =>
      obtain ⟨rfl, rest⟩ := List.cons.inj inside
      have whole : body = more ++ c :: ahead := rest
      rw [whole, List.mem_append, List.mem_cons, not_or, not_or] at single
      exact (behind_sign_append _ _).2 (Or.inr ⟨Ne.symm single.2.1, front, more, rfl, single.1⟩)

theorem RunsToLineEnd.covers_line (runs : RunsToLineEnd source node) {front back : List Char}
    (split : source = front ++ '#' :: (back ++ after)) (covers : node.covers (bytes front) = true)
    (single : '\n' ∉ back) {more : List Char} (last : '#' :: back = more ++ [c]) :
    node.covers (bytes (front ++ more)) = true ∨ c = '\r' ∧ after.head? = some '\n' := by
  obtain ⟨begin, body, rest, rfl, start, stop, -, ends⟩ := runs
  rw [Node.covers_iff, start, stop] at covers ⊢
  obtain ⟨passed, ahead, rfl, inside, later⟩ := split_inside split covers.1 covers.2
  have short : bytes more < bytes ('#' :: back) := by
    have wide := bytes_pos (List.cons_ne_nil c [])
    rw [last, bytes_append]
    omega
  rw [inside, bytes_append, bytes_append, bytes_append]
  -- The comment ends behind what is asked for, or else in front of a line end that is part of it.
  rcases List.append_eq_append_iff.1 later with ⟨between, rfl, -⟩ | ⟨between, rfl, rfl⟩
  · left
    rw [← List.cons_append, bytes_append]
    omega
  · cases between with
    | nil =>
        left
        rw [List.append_nil] at short
        omega
    | cons d beyond =>
        right
        have visible : d ≠ '\n' := by
          rintro rfl
          exact single (by simp)
        simp only [List.cons_append, atLineEnd, Bool.or_eq_true, beq_iff_eq, visible, false_or,
          Bool.and_eq_true] at ends
        obtain ⟨rfl, feed⟩ := ends
        cases beyond with
        | nil =>
            rw [← List.cons_append] at last
            have equal := (List.append_inj' last rfl).2
            exact ⟨(List.cons.inj equal).1.symm, feed⟩
        | cons e further =>
            have found : e = '\n' := by simpa using feed
            exact absurd (by simp [found]) single

/-- What the comments of a tree cover stands behind a number sign on its line, and all that stands
there is covered, but for a carriage return in front of a line feed. -/
structure CoversTails (source : List Char) (gone : Nat → Bool) : Prop where
  behind : ∀ before c after, source = before ++ c :: after → gone (bytes before) = true →
    BehindSign (before ++ [c])
  covered : ∀ before c after, source = before ++ c :: after → BehindSign (before ++ [c]) →
    gone (bytes before) = true ∨ c = '\r' ∧ after.head? = some '\n'

theorem LineCommented.covers_tails {tree : SyntaxTree} (commented : tree.LineCommented source)
    (ordered : tree.Ordered) :
    CoversTails source (coveredBy (tree.outermost Node.isComment)) where
  behind before c after split gone := by
    obtain ⟨node, member, isComment, covers⟩ :=
      (ordered.contained.covered_by_outermost_iff _).1 gone
    exact (commented.comments node member isComment).behind_sign split covers
  covered before c after split behind := by
    obtain ⟨front, back, same, single⟩ := behind
    have whole : source = front ++ '#' :: (back ++ after) := by
      rw [split, ← List.singleton_append, ← List.append_assoc, same, List.append_assoc]
      rfl
    have placed : (bytes front, '#') ∈ placed 0 source := by
      rw [whole, ← Nat.zero_add (bytes front)]
      exact mem_placed_split 0 front
    obtain ⟨node, member, isComment, covers⟩ := commented.signs _ placed rfl
    obtain ⟨more, last, rfl⟩ : ∃ more, '#' :: back = more ++ [c] ∧ before = front ++ more := by
      rcases List.eq_nil_or_concat ('#' :: back) with nothing | ⟨more, d, concat⟩
      · cases nothing
      · rw [List.concat_eq_append] at concat
        rw [concat, ← List.append_assoc] at same
        obtain ⟨rfl, equal⟩ := List.append_inj' same rfl
        exact ⟨more, by rw [concat, equal], rfl⟩
    have runs := commented.comments node member isComment
    exact (runs.covers_line whole covers single last).imp_left fun covers =>
      (ordered.contained.covered_by_outermost_iff _).2 ⟨node, member, isComment, covers⟩

theorem CoversTails.remains {gone : Nat → Bool} (tails : CoversTails source gone)
    (split : source = before ++ c :: after) (clear : ¬BehindSign (before ++ [c])) :
    gone (bytes before) = false := by
  rw [← Bool.not_eq_true]
  exact fun covered => clear (tails.behind before c after split covered)

/-- The induction is on the text that is still to be read. Deleting what is covered and stopping
each line at its number sign keep the same characters, but for a carriage return at the end of a
line. -/
theorem CoversTails.alike {gone : Nat → Bool} (tails : CoversTails source gone)
    {before rest : List Char} (split : source = before ++ rest) {inside : Bool}
    (state : inside = true ↔ BehindSign before) :
    Alike (selectFrom (bytes before) (fun place => !gone place) rest) (stopLines inside rest) := by
  induction rest generalizing before inside with
  | nil => exact ⟨rfl, rfl⟩
  | cons c rest ih =>
      have next : source = (before ++ [c]) ++ rest := by
        rw [split, List.append_assoc, List.singleton_append]
      have place : bytes (before ++ [c]) = bytes before + c.utf8Size := by
        rw [bytes_append, bytes, bytes, Nat.add_zero]
      have step := behind_sign_append before c
      rw [select_from_cons, stopLines, ← place]
      by_cases ends : c = '\n'
      · have clear : ¬BehindSign (before ++ [c]) := by
          rw [step, ends]
          simp
        rw [tails.remains split clear, Bool.not_false, if_pos rfl, if_pos ends]
        exact (ih next (iff_of_false Bool.false_ne_true clear)).cons c
      · rw [if_neg ends]
        by_cases behind : BehindSign (before ++ [c])
        · have stopped : (inside || c == '#') = true := by
            rw [Bool.or_eq_true, beq_iff_eq, state]
            exact (step.1 behind).symm.imp_left And.right
          have later := ih next (iff_of_true rfl behind)
          rw [if_pos stopped]
          rcases tails.covered before c rest split behind with covered | ⟨rfl, feed⟩
          · rw [covered]
            exact later
          · split
            · refine later.blank rfl ?_
              obtain ⟨others, rfl⟩ := List.head?_eq_some_iff.1 feed
              rfl
            · exact later
        · have unsigned : (inside || c == '#') = false := by
            rw [← Bool.not_eq_true, Bool.or_eq_true, beq_iff_eq, state]
            exact fun either => behind (step.2 (either.symm.imp_right fun before => ⟨ends, before⟩))
          rw [tails.remains split behind, Bool.not_false, if_pos rfl, unsigned,
            if_neg Bool.false_ne_true]
          exact (ih next (iff_of_false Bool.false_ne_true behind)).cons c

theorem LineCommented.chop_without_comments {source : String} {tree : SyntaxTree}
    (commented : tree.LineCommented source.toList) (ordered : tree.Ordered) :
    chop (tree.withoutComments source) = chop (stopLines false source.toList) := by
  have tails := commented.covers_tails ordered
  have clear : ¬BehindSign [] := by
    rintro ⟨front, back, same, -⟩
    simp at same
  exact (tails.alike (List.nil_append _).symm (iff_of_false Bool.false_ne_true clear)).tokens

end SyntaxTree

namespace Vocabulary

/-- Where number signs stand in comments only, and comments run from a number sign to the end of
their line, it makes no difference whether comments are removed by the parse tree or line by line:
the same tokens remain in the same order, and four of the five sets of a vocabulary are the same.
The fifth are the names, which only a tree knows. -/
theorem comments_by_tree_or_by_line {source : String} {tree : SyntaxTree} (ordered : tree.Ordered)
    (commented : tree.LineCommented source.toList) :
    let byTree := Vocabulary.ofSource source (some tree)
    let byLine := Vocabulary.ofSource source none
    chop (tree.withoutComments source) = chop (withoutLineComments source.toList) ∧
      byTree.tokens = byLine.tokens ∧ byTree.words = byLine.words ∧
      byTree.identifiers = byLine.identifiers ∧ byTree.keywords = byLine.keywords := by
  intro byTree byLine
  have same : chop (tree.withoutComments source) = chop (withoutLineComments source.toList) :=
    (commented.chop_without_comments ordered).trans (chop_without_line_comments source.toList).symm
  refine ⟨same, ?_⟩
  simp only [byTree, byLine, ofSource, ofStripped, same, and_self]

/-- A statement with a comment behind it, an empty line, and a last line that is a comment. The
first comment covers the carriage return of its line. -/
def remarkedSource : String :=
  "é = 1 # a\r\n\n# ü"

def remarkedTree : SyntaxTree :=
  .node (soundNode "module" 0 17)
    [.node (soundNode "expression_statement" 0 6)
      [.node (soundNode "assignment" 0 6)
        [.node (soundNode "identifier" 0 2) [], .node (soundNode "integer" 5 6) []]],
     .node (soundNode "comment" 7 11) [], .node (soundNode "comment" 13 17) []]

theorem remarked_lines_commented : remarkedTree.LineCommented remarkedSource.toList where
  comments := by
    have listed : remarkedTree.nodes.filter Node.isComment =
        [soundNode "comment" 7 11, soundNode "comment" 13 17] := by decide
    intro node member isComment
    have among := List.mem_filter.2 ⟨member, isComment⟩
    rw [listed] at among
    rcases List.mem_cons.1 among with rfl | last
    · exact ⟨['é', ' ', '=', ' ', '1', ' '], [' ', 'a', '\r'],
        ['\n', '\n', '#', ' ', 'ü'], by decide, by decide, by decide, by decide, by decide⟩
    · rw [List.mem_singleton.1 last]
      exact ⟨['é', ' ', '=', ' ', '1', ' ', '#', ' ', 'a', '\r', '\n', '\n'], [' ', 'ü'],
        [], by decide, by decide, by decide, by decide, by decide⟩
  signs := by decide

theorem remarked_lines_lose_comments :
    remarkedTree.Ordered ∧ remarkedTree.LineCommented remarkedSource.toList ∧
      (Vocabulary.ofSource remarkedSource (some remarkedTree)).tokens =
        (Vocabulary.ofSource remarkedSource none).tokens ∧
      chop (withoutLineComments remarkedSource.toList) = [['é'], ['='], ['1']] := by
  have ordered : remarkedTree.Ordered := by decide
  have same := comments_by_tree_or_by_line ordered remarked_lines_commented
  refine ⟨ordered, remarked_lines_commented, same.2.1, ?_⟩
  decide +kernel

end Vocabulary

end Resemblance
