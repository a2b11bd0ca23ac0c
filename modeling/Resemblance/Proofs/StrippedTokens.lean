import Resemblance.Proofs.CommentStripping

/-!
Tokens of a source without its comments. Where a deletion begins at a number sign and ends in front
of a line end, no word goes on from what remains to what is deleted or back, so that the tokens of
what remains are the tokens of the source that stand in it: none is lost, cut, or joined with the
one behind the comment.
-/

namespace Resemblance

open Text Token

namespace Token

/-- Wherever what is gone begins or ends inside the text, the character behind that place is in no
word. -/
def Seams (start : Nat) (gone : Nat → Bool) (cs : List Char) : Prop :=
  ∀ before c d after, cs = before ++ c :: d :: after →
    gone (start + bytes before) ≠ gone (start + bytes before + c.utf8Size) → isWordChar d = false

section Seams

variable {start : Nat} {gone : Nat → Bool} {c : Char} {rest : List Char}

theorem Seams.tail (seams : Seams start gone (c :: rest)) :
    Seams (start + c.utf8Size) gone rest := by
  intro before d e after split differ
  apply seams (c :: before) d e after (by rw [split]; rfl)
  rwa [bytes, ← Nat.add_assoc]

/-- A word goes on as it begins: deleted or not. -/
theorem Seams.word (seams : Seams start gone (c :: rest)) (letter : startsWord rest = true) :
    gone (start + c.utf8Size) = gone start := by
  cases rest with
  | nil => cases letter
  | cons d more =>
      by_contra differ
      have other := seams [] c d more rfl (Ne.symm differ)
      rw [startsWord, other] at letter
      cases letter

theorem Seams.behind_gone (seams : Seams start gone (c :: rest)) (deleted : gone start = true) :
    startsWord (selectFrom (start + c.utf8Size) (fun offset => !gone offset) rest) = false := by
  induction rest generalizing start c with
  | nil => rfl
  | cons d more ih =>
      rw [select_from_cons]
      cases further : gone (start + c.utf8Size) with
      | true => exact ih seams.tail further
      | false =>
          apply seams [] c d more rfl
          rw [bytes, Nat.add_zero, deleted, further]
          decide

theorem Seams.starts_word (seams : Seams start gone (c :: rest)) (remains : gone start = false) :
    startsWord (selectFrom (start + c.utf8Size) (fun offset => !gone offset) rest) =
      startsWord rest := by
  cases rest with
  | nil => rfl
  | cons d more =>
      rw [select_from_cons]
      cases further : gone (start + c.utf8Size) with
      | false => rfl
      | true =>
          have other := seams [] c d more rfl (by
            rw [bytes, Nat.add_zero, remains, further]
            decide)
          rw [startsWord, other]
          exact seams.tail.behind_gone further

end Seams

/-- The tokens of what remains are those that begin in it. The induction is on the text; a word that
is being read keeps its first character exactly if it keeps the next one. -/
theorem Seams.chop_select {start : Nat} {gone : Nat → Bool} {cs : List Char}
    (seams : Seams start gone cs) :
    chop (selectFrom start (fun offset => !gone offset) cs) =
      ((piecesFrom start cs).filter fun piece => !gone piece.start).map Piece.token := by
  induction cs generalizing start with
  | nil => rfl
  | cons c rest ih =>
      have later := ih seams.tail
      rw [select_from_cons, piecesFrom]
      cases deleted : gone start with
      | true =>
          rw [Bool.not_true, if_neg Bool.false_ne_true, later]
          cases letter : isWordChar c with
          | false =>
              cases blank : isBlank c with
              | true => rfl
              | false => simp [deleted]
          | true =>
              cases first : startsWord rest with
              | false => simp [deleted]
              | true =>
                  obtain ⟨token, more, begins⟩ := pieces_from_word (start + c.utf8Size) first
                  have further := (seams.word first).trans deleted
                  simp [begins, extend, deleted, further]
      | false =>
          have starts := seams.starts_word deleted
          rw [Bool.not_false, if_pos rfl, chop, starts, later]
          cases letter : isWordChar c with
          | false =>
              cases blank : isBlank c with
              | true => rfl
              | false => simp [deleted]
          | true =>
              cases first : startsWord rest with
              | false => simp [deleted]
              | true =>
                  obtain ⟨token, more, begins⟩ := pieces_from_word (start + c.utf8Size) first
                  have further := (seams.word first).trans deleted
                  simp [begins, extend, glue, deleted, further]

end Token

/-- The node begins at a number sign and ends in front of a line end or at the end of the text. -/
def Node.IsLineComment (source : List Char) (node : Node) : Prop :=
  ∃ before body after, source = before ++ ('#' :: body ++ after) ∧ node.start = bytes before ∧
    node.stop = bytes before + bytes ('#' :: body) ∧ atLineEnd after = true

theorem SyntaxTree.RunsToLineEnd.is_line_comment {source : List Char} {node : Node}
    (runs : RunsToLineEnd source node) : node.IsLineComment source := by
  obtain ⟨before, body, after, split, start, stop, -, ends⟩ := runs
  exact ⟨before, body, after, split, start, stop, ends⟩

theorem Token.not_word_at_line_end {c : Char} {rest : List Char}
    (ends : atLineEnd (c :: rest) = true) :
    isWordChar c = false := by
  simp only [atLineEnd, Bool.or_eq_true, beq_iff_eq, Bool.and_eq_true] at ends
  rcases ends with rfl | ⟨rfl, -⟩ <;> decide

namespace Node.IsLineComment

variable {source before after : List Char} {c d : Char} {node : Node}

theorem not_word_where_begins (comment : node.IsLineComment source)
    (split : source = before ++ c :: d :: after) (outside : node.covers (bytes before) = false)
    (inside : node.covers (bytes before + c.utf8Size) = true) : isWordChar d = false := by
  obtain ⟨front, body, back, same, start, stop, -⟩ := comment
  have place : bytes before + c.utf8Size = bytes (before ++ [c]) := by
    rw [bytes_append, bytes, bytes, Nat.add_zero]
  have shifted : front ++ ('#' :: body ++ back) = (before ++ [c]) ++ d :: after := by
    rw [← same, split, List.append_assoc, List.singleton_append]
  rw [place, Node.covers_iff] at inside
  obtain ⟨passed, ahead, reached, covered, -⟩ := split_inside shifted (by omega) (by omega)
  rcases List.eq_nil_or_concat passed with rfl | ⟨more, last, rfl⟩
  · obtain ⟨rfl, -⟩ := List.cons.inj covered
    decide
  · exfalso
    rw [List.concat_eq_append, ← List.append_assoc] at reached
    obtain ⟨rfl, -⟩ := List.append_inj' reached rfl
    rw [← Bool.not_eq_true, Node.covers_iff] at outside
    rw [bytes_append] at outside inside
    have wide := c.utf8Size_pos
    rw [bytes_append] at inside
    omega

theorem not_word_where_ends (comment : node.IsLineComment source)
    (split : source = before ++ c :: d :: after) (inside : node.covers (bytes before) = true)
    (outside : node.covers (bytes before + c.utf8Size) = false) : isWordChar d = false := by
  obtain ⟨front, body, back, same, start, stop, ends⟩ := comment
  rw [Node.covers_iff] at inside
  rw [← Bool.not_eq_true, Node.covers_iff] at outside
  obtain ⟨passed, ahead, rfl, covered, behind⟩ :=
    split_inside (same.symm.trans split) (by omega) (by omega)
  have short : bytes ahead = 0 := by
    rw [covered, bytes_append, bytes] at stop
    rw [bytes_append] at outside inside
    omega
  cases ahead with
  | nil =>
      have line : back = d :: after := behind.symm
      rw [line] at ends
      exact not_word_at_line_end ends
  | cons e more =>
      have wide := bytes_pos (List.cons_ne_nil e more)
      omega

/-- No token of the text goes across the beginning of a comment. -/
theorem not_inside_token (comment : node.IsLineComment source) {piece : Piece}
    (stands : piece.StandsIn 0 source) : ¬(piece.start < node.start ∧ node.start < piece.stop) := by
  rintro ⟨behind, inside⟩
  obtain ⟨front, body, back, same, start, -, -⟩ := comment
  obtain ⟨before, after, split, place, isToken⟩ := stands
  rw [Piece.stop] at inside
  obtain ⟨passed, ahead, rfl, covered, -⟩ :=
    split_inside (split.symm.trans same) (by omega) (by omega)
  rw [bytes_append] at start
  generalize piece.token = token at isToken covered
  cases isToken with
  | word filled run left right =>
      have sign := run '#' (by rw [covered]; simp)
      revert sign
      decide
  | sign other visible =>
      cases passed with
      | nil =>
          rw [bytes] at start
          omega
      | cons e more =>
          have length := congrArg List.length covered
          simp at length

end Node.IsLineComment

/-- The token shares no offset with a comment of the tree. -/
def Token.Piece.outsideComments (tree : SyntaxTree) (piece : Piece) : Bool :=
  (tree.nodes.filter Node.isComment).all fun node =>
    decide (piece.stop ≤ node.start) || decide (node.stop ≤ piece.start)

namespace SyntaxTree

variable {tree : SyntaxTree}

section LineComments

variable {source : List Char} (contained : tree.Contained)
  (comments : ∀ node ∈ tree.nodes, node.isComment = true → node.IsLineComment source)

include comments

theorem seams_of_line_comments : Seams 0 (coveredBy (tree.outermost Node.isComment)) source := by
  intro before c d after split differ
  rw [Nat.zero_add] at differ
  have comment : ∀ node ∈ tree.outermost Node.isComment, node.IsLineComment source := by
    intro node member
    obtain ⟨below, holds⟩ := mem_nodes_of_mem_outermost node member
    exact comments node below holds
  cases here : coveredBy (tree.outermost Node.isComment) (bytes before) with
  | true =>
      rw [here] at differ
      obtain ⟨node, member, covers⟩ := List.any_eq_true.1 here
      have next := List.any_eq_false.1 (Bool.eq_false_iff.2 (Ne.symm differ)) node member
      exact (comment node member).not_word_where_ends split covers (Bool.eq_false_iff.2 next)
  | false =>
      rw [here] at differ
      obtain ⟨node, member, covers⟩ := List.any_eq_true.1 (Bool.ne_false_iff.1 (Ne.symm differ))
      have own := List.any_eq_false.1 here node member
      exact (comment node member).not_word_where_begins split (Bool.eq_false_iff.2 own) covers

include contained

/-- A token begins outside of the outermost comments exactly if it is outside of all comments. -/
theorem outside_comments_iff {piece : Piece} (member : piece ∈ piecesFrom 0 source) :
    piece.outsideComments tree = !coveredBy (tree.outermost Node.isComment) piece.start := by
  have cutting := pieces_from_cutting 0 source
  have long := cutting.start_lt_stop member
  rw [Bool.eq_iff_iff, Bool.not_eq_true', Piece.outsideComments, List.all_eq_true,
    ← Bool.not_eq_true, contained.covered_by_outermost_iff]
  simp only [List.mem_filter, and_imp, Bool.or_eq_true, decide_eq_true_eq, not_exists, not_and,
    Node.covers_iff]
  constructor
  · intro outside node below holds
    have apart := outside node below holds
    omega
  · intro outside node below holds
    have uncovered := outside node below holds
    have entire := (comments node below holds).not_inside_token (cutting.tokens piece member)
    omega

end LineComments

/-- Stripping succeeds and deletes the bytes of the outermost comments, no others, in whatever order
these are collected. Where comments begin at a number sign and end in front of a line end, the
tokens of what is left are the tokens of the source that lie outside of all comments. Nothing is
asked of the order of siblings. -/
theorem stripping_deletes_outermost_comments {source : String} {tree : SyntaxTree}
    (nested : tree.Nested)
    (fits : ∀ node ∈ tree.nodes, node.FitsIn source.toList) :
    let comments := tree.outermost Node.isComment
    let stripped := tree.withoutComments source
    let pieces := piecesFrom 0 source.toList
    stripComments source tree = some stripped ∧
      (∀ collected : List Node, collected.Perm comments →
        splice source.toList collected = some stripped) ∧
      encoded stripped =
        ((encoded source.toList).zipIdx.filter fun entry => !coveredBy comments entry.2).map
          Prod.fst ∧
      tokens source = pieces.map (fun piece => String.ofList piece.token) ∧
      ((∀ node ∈ tree.nodes, node.isComment = true → node.IsLineComment source.toList) →
        tokens (String.ofList stripped) =
          (pieces.filter (Piece.outsideComments tree)).map fun piece =>
            String.ofList piece.token) := by
  intro comments stripped pieces
  refine ⟨nested.strip_eq fits, fun collected perm => nested.splice_comments fits perm,
    encoded_without_comments fits, ?_, ?_⟩
  · rw [tokens, ← pieces_from_tokens 0, List.map_map]
    rfl
  · intro lines
    have kept : pieces.filter (Piece.outsideComments tree) =
        pieces.filter fun piece => !coveredBy comments piece.start :=
      List.filter_congr fun piece member => outside_comments_iff nested.contained lines member
    have chopped := (seams_of_line_comments lines).chop_select
    rw [← without_comments_eq] at chopped
    rw [tokens, String.toList_ofList, chopped, kept, List.map_map]
    rfl

/-- The parts of the remarked statement, the last comment first and the statement between both. -/
def shuffledTree : SyntaxTree :=
  .node (soundNode "module" 0 17)
    [.node (soundNode "comment" 13 17) [],
     .node (soundNode "expression_statement" 0 6)
      [.node (soundNode "assignment" 0 6)
        [.node (soundNode "integer" 5 6) [], .node (soundNode "identifier" 0 2) []]],
     .node (soundNode "comment" 7 11) []]

theorem shuffled_comments_stripped :
    let source := Vocabulary.remarkedSource
    let stripped := ['é', ' ', '=', ' ', '1', ' ', '\n', '\n']
    shuffledTree.Nested ∧ (∀ node ∈ shuffledTree.nodes, node.FitsIn source.toList) ∧
      (∀ node ∈ shuffledTree.nodes, node.isComment = true → node.IsLineComment source.toList) ∧
      stripComments source shuffledTree = some stripped ∧
      tokens (String.ofList stripped) =
        ((piecesFrom 0 source.toList).filter (Piece.outsideComments shuffledTree)).map fun piece =>
          String.ofList piece.token := by
  intro source stripped
  have nested : shuffledTree.Nested := ⟨by decide, by decide⟩
  have proper : ∀ node ∈ shuffledTree.nodes, node.start ≤ node.stop := by decide
  have bounded : ∀ node ∈ shuffledTree.nodes, Boundary source.toList node.start ∧
      Boundary source.toList node.stop := by decide +kernel
  have fits : ∀ node ∈ shuffledTree.nodes, node.FitsIn source.toList := fun node member =>
    ⟨proper node member, (bounded node member).1, (bounded node member).2⟩
  have among : ∀ node ∈ shuffledTree.nodes, node ∈ Vocabulary.remarkedTree.nodes := by decide
  have lines : ∀ node ∈ shuffledTree.nodes, node.isComment = true →
      node.IsLineComment source.toList :=
    fun node member isComment =>
      (Vocabulary.remarked_lines_commented.comments node
        (among node member) isComment).is_line_comment
  have kept : shuffledTree.withoutComments source = stripped := by decide +kernel
  obtain ⟨success, -, -, -, outside⟩ := stripping_deletes_outermost_comments nested fits
  rw [kept] at success outside
  exact ⟨nested, fits, lines, success, outside lines⟩

end SyntaxTree
end Resemblance
