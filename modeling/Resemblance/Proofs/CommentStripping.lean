import Resemblance.Proofs.LineComments

/-!
Comments stripped by a parse tree, as it is carried out: the comment nodes are collected by way of a
stack, put in order by where they begin, and the text between them is copied behind a running
cursor. Collecting finds the outermost comments, the last ones first; in whatever order they come,
the text that is left is the one without the characters that they cover, and no cut falls inside a
character.
-/

namespace Resemblance

open Text

namespace Text

/-- What stands before and behind an offset. There is no result inside a character or beyond the
text. -/
def splitAt : Nat → List Char → Option (List Char × List Char)
  | 0, cs => some ([], cs)
  | _ + 1, [] => none
  | offset + 1, c :: rest =>
      if c.utf8Size ≤ offset + 1 then
        (splitAt (offset + 1 - c.utf8Size) rest).map fun parts => (c :: parts.1, parts.2)
      else none

/-- What stands between two offsets. There is no result where they are out of order or inside
characters. -/
def cut (source : List Char) (start stop : Nat) : Option (List Char) := do
  let (_, behind) ← splitAt start source
  if start ≤ stop then (splitAt (stop - start) behind).map Prod.fst else none

def Boundary (source : List Char) (offset : Nat) : Prop :=
  ∃ before after, source = before ++ after ∧ bytes before = offset

theorem split_at_bytes (before after : List Char) :
    splitAt (bytes before) (before ++ after) = some (before, after) := by
  induction before with
  | nil => rw [bytes, List.nil_append, splitAt]
  | cons c rest ih =>
      have wide := c.utf8Size_pos
      obtain ⟨offset, equal⟩ : ∃ offset, bytes (c :: rest) = offset + 1 :=
        ⟨bytes (c :: rest) - 1, by rw [bytes]; omega⟩
      have fits : c.utf8Size ≤ offset + 1 := by
        rw [← equal, bytes]
        omega
      have later : offset + 1 - c.utf8Size = bytes rest := by
        rw [← equal, bytes]
        omega
      rw [equal, List.cons_append, splitAt, if_pos fits, later, ih]
      rfl

theorem split_at_parts {offset : Nat} {source before after : List Char}
    (found : splitAt offset source = some (before, after)) :
    source = before ++ after ∧ bytes before = offset := by
  induction source generalizing offset before with
  | nil =>
      cases offset with
      | zero =>
          obtain ⟨rfl, rfl⟩ := Prod.mk.inj (Option.some.inj found)
          exact ⟨rfl, rfl⟩
      | succ offset => cases found
  | cons c rest ih =>
      cases offset with
      | zero =>
          obtain ⟨rfl, rfl⟩ := Prod.mk.inj (Option.some.inj found)
          exact ⟨rfl, rfl⟩
      | succ offset =>
          rw [splitAt] at found
          split at found
          next fits =>
            obtain ⟨⟨front, back⟩, deeper, equal⟩ := Option.map_eq_some_iff.1 found
            obtain ⟨rfl, rfl⟩ := Prod.mk.inj equal
            obtain ⟨rfl, size⟩ := ih deeper
            refine ⟨rfl, ?_⟩
            rw [bytes, size]
            omega
          next => cases found

theorem boundary_iff {source : List Char} {offset : Nat} :
    Boundary source offset ↔ (splitAt offset source).isSome = true := by
  constructor
  · rintro ⟨before, after, rfl, rfl⟩
    rw [split_at_bytes]
    rfl
  · intro found
    obtain ⟨⟨before, after⟩, parts⟩ := Option.isSome_iff_exists.1 found
    exact ⟨before, after, split_at_parts parts⟩

instance (source : List Char) (offset : Nat) : Decidable (Boundary source offset) :=
  decidable_of_iff _ boundary_iff.symm

theorem cut_between (before between after : List Char) :
    cut (before ++ (between ++ after)) (bytes before) (bytes before + bytes between) =
      some between := by
  rw [cut, split_at_bytes]
  have reached : bytes before + bytes between - bytes before = bytes between :=
    Nat.add_sub_cancel_left ..
  rw [reached]
  change (if _ then _ else _) = _
  rw [if_pos (Nat.le_add_right _ _), split_at_bytes]
  rfl

theorem Boundary.behind {passed rest : List Char} {offset : Nat}
    (boundary : Boundary (passed ++ rest) offset) (reached : bytes passed ≤ offset) :
    ∃ between after, rest = between ++ after ∧ offset = bytes passed + bytes between := by
  obtain ⟨before, after, same, rfl⟩ := boundary
  rcases List.append_eq_append_iff.1 same with ⟨between, rfl, rfl⟩ | ⟨beyond, rfl, rfl⟩
  · exact ⟨between, after, rfl, bytes_append _ _⟩
  · cases beyond with
    | nil => exact ⟨[], rest, rfl, by rw [List.append_nil]; rfl⟩
    | cons c more =>
        have wide := bytes_pos (List.cons_ne_nil c more)
        rw [bytes_append] at reached
        omega

theorem Boundary.outside_character {before after : List Char} {c : Char} {offset : Nat}
    (boundary : Boundary (before ++ c :: after) offset) :
    offset ≤ bytes before ∨ bytes before + c.utf8Size ≤ offset := by
  by_cases reached : bytes before ≤ offset
  · obtain ⟨between, behind, same, rfl⟩ := boundary.behind reached
    cases between with
    | nil => exact .inl (Nat.le_refl _)
    | cons d more =>
        obtain ⟨rfl, -⟩ := List.cons.inj same
        rw [bytes]
        omega
  · omega

end Text

def Node.Apart (a b : Node) : Prop :=
  min a.stop b.stop ≤ max a.start b.start

instance (a b : Node) : Decidable (a.Apart b) :=
  inferInstanceAs (Decidable (_ ≤ _))

theorem Node.Apart.symm {a b : Node} (apart : a.Apart b) : b.Apart a := by
  rw [Apart, min_comm, max_comm]
  exact apart

/-- The node begins and ends between characters of the text, and does not end before it begins. -/
structure Node.FitsIn (source : List Char) (node : Node) : Prop where
  proper : node.start ≤ node.stop
  start : Boundary source node.start
  stop : Boundary source node.stop

theorem Node.FitsIn.divides {source passed rest : List Char} {node : Node}
    (fits : node.FitsIn source)
    (split : source = passed ++ rest) (reached : bytes passed ≤ node.start) :
    ∃ between covered after, rest = between ++ (covered ++ after) ∧
      node.start = bytes passed + bytes between ∧ node.stop = node.start + bytes covered := by
  have start := fits.start
  have stop := fits.stop
  rw [split] at start stop
  obtain ⟨between, beyond, rfl, begins⟩ := start.behind reached
  have further : bytes (passed ++ between) ≤ node.stop := by
    rw [bytes_append, ← begins]
    exact fits.proper
  rw [← List.append_assoc] at stop
  obtain ⟨covered, after, rfl, ends⟩ := stop.behind further
  exact ⟨between, covered, after, rfl, begins, by rw [ends, bytes_append, begins]⟩

namespace SyntaxTree

theorem sizes_reverse (trees : List SyntaxTree) : sizes trees.reverse = sizes trees := by
  induction trees with
  | nil => rfl
  | cons tree rest ih =>
      rw [List.reverse_cons, sizes_append, ih, sizes, sizes, sizes]
      omega

/-- The comments among the trees on a stack, the top one first. What stands below a comment is
passed over; the children of any other node go on the stack one by one, so that the last of them is
on top. -/
def collectComments : List SyntaxTree → List Node
  | [] => []
  | node head children :: rest =>
      if head.isComment then head :: collectComments rest
      else collectComments (children.reverse ++ rest)
termination_by stack => sizes stack
decreasing_by
  · simp only [sizes, size]
    omega
  · simp only [sizes, size, sizes_append, List.unattach_reverse, List.unattach_attach,
      sizes_reverse]
    omega

/-- The text from a cursor on without the nodes, which are passed over where they begin before the
cursor. -/
def spliceFrom (source : List Char) : Nat → List Node → Option (List Char)
  | last, [] => cut source last (bytes source)
  | last, comment :: rest =>
      if last ≤ comment.start then do
        let between ← cut source last comment.start
        let later ← spliceFrom source comment.stop rest
        some (between ++ later)
      else spliceFrom source last rest

def splice (source : List Char) (nodes : List Node) : Option (List Char) :=
  if nodes.isEmpty then some source
  else spliceFrom source 0 (nodes.mergeSort fun a b => a.start ≤ b.start)

def stripComments (source : String) (tree : SyntaxTree) : Option (List Char) :=
  splice source.toList (collectComments [tree])

section Collecting

variable {wanted : Node → Bool}

theorem outermost_among_append (trees others : List SyntaxTree) :
    outermostAmong wanted (trees ++ others) =
      outermostAmong wanted trees ++ outermostAmong wanted others := by
  induction trees with
  | nil => rfl
  | cons tree rest ih => simp only [List.cons_append, outermostAmong, ih, List.append_assoc]

theorem outermost_among_reverse (trees : List SyntaxTree) :
    (outermostAmong wanted trees.reverse).Perm (outermostAmong wanted trees) := by
  induction trees with
  | nil => exact .refl _
  | cons tree rest ih =>
      rw [List.reverse_cons, outermost_among_append, outermostAmong, outermostAmong, outermostAmong,
        List.append_nil]
      exact List.perm_append_comm.trans (ih.append_left _)

/-- The stack finds the outermost comments, in an order of its own. -/
theorem collect_comments_perm (stack : List SyntaxTree) :
    (collectComments stack).Perm (outermostAmong Node.isComment stack) := by
  induction stack using collectComments.induct with
  | case1 => rw [collectComments, outermostAmong]
  | case2 head children rest comment ih =>
      rw [collectComments, if_pos comment, outermostAmong, outermost, if_pos comment]
      exact ih.cons head
  | case3 head children rest other ih =>
      rw [collectComments, if_neg other, outermostAmong, outermost, if_neg other]
      rw [List.unattach_reverse, List.unattach_attach, outermost_among_append] at ih
      exact ih.trans ((outermost_among_reverse children).append_right _)

end Collecting

/-- Every node lies inside its parent, and no two siblings share an offset. Siblings need not stand
in order. -/
structure Nested (tree : SyntaxTree) : Prop where
  inside : ∀ below ∈ tree.subtrees, ∀ child ∈ below.children,
    below.head.start ≤ child.head.start ∧ child.head.stop ≤ below.head.stop
  apart : ∀ below ∈ tree.subtrees, below.children.Pairwise fun a b => a.head.Apart b.head

theorem Nested.of_child {head : Node} {children : List SyntaxTree}
    (nested : (node head children).Nested) :
    ∀ child ∈ children, child.Nested := fun _ member =>
  ⟨fun below reached => nested.inside below (mem_subtrees_of_child member reached),
    fun below reached => nested.apart below (mem_subtrees_of_child member reached)⟩

theorem Nested.contained {tree : SyntaxTree} (nested : tree.Nested) : tree.Contained := by
  induction tree using tree_induction with
  | step head children ih =>
      intro below reached found member
      rcases List.mem_cons.1 reached with rfl | deeper
      · rcases List.mem_cons.1 member with rfl | lower
        · exact ⟨Nat.le_refl _, Nat.le_refl _⟩
        · obtain ⟨child, listed, own⟩ := mem_nodes_among.1 lower
          have bounds := nested.inside _ (mem_subtrees_self _) child listed
          have inner := ih child listed (nested.of_child child listed) child
            (mem_subtrees_self child)
            found own
          exact ⟨bounds.1.trans inner.1, inner.2.trans bounds.2⟩
      · obtain ⟨child, listed, own⟩ := mem_subtrees_among.1 deeper
        exact ih child listed (nested.of_child child listed) below own found member

section Outermost

variable {wanted : Node → Bool}

theorem outermost_among_apart {trees : List SyntaxTree} (contained : ∀ tree ∈ trees, tree.Contained)
    (apart : trees.Pairwise fun a b => a.head.Apart b.head)
    (each : ∀ tree ∈ trees, (tree.outermost wanted).Pairwise Node.Apart) :
    (outermostAmong wanted trees).Pairwise Node.Apart := by
  induction trees with
  | nil => exact List.Pairwise.nil
  | cons tree rest ih =>
      obtain ⟨first, later⟩ := List.pairwise_cons.1 apart
      obtain ⟨own, others⟩ := List.forall_mem_cons.1 contained
      refine List.pairwise_append.2 ⟨each tree List.mem_cons_self,
        ih others later fun other member => each other (List.mem_cons_of_mem _ member), ?_⟩
      intro a here b there
      obtain ⟨other, listed, below⟩ := mem_outermost_among.1 there
      have left := own tree (mem_subtrees_self tree) a (mem_nodes_of_mem_outermost a here).1
      have right := others other listed other (mem_subtrees_self other) b
        (mem_nodes_of_mem_outermost b below).1
      have heads := first other listed
      rw [Node.Apart] at heads ⊢
      omega

theorem Nested.outermost_apart {tree : SyntaxTree} (nested : tree.Nested) :
    (tree.outermost wanted).Pairwise Node.Apart := by
  induction tree using tree_induction with
  | step head children ih =>
      rw [outermost]
      split
      · exact List.pairwise_singleton _ _
      · exact outermost_among_apart (fun child listed => (nested.of_child child listed).contained)
          (nested.apart _ (mem_subtrees_self _))
          fun child listed => ih child listed (nested.of_child child listed)

end Outermost

theorem covered_by_cons (node : Node) (others : List Node) (offset : Nat) :
    coveredBy (node :: others) offset = (node.covers offset || coveredBy others offset) :=
  List.any_cons

theorem not_covered_before {nodes : List Node} {offset : Nat}
    (before : ∀ node ∈ nodes, offset < node.start) : coveredBy nodes offset = false := by
  rw [coveredBy, List.any_eq_false]
  intro node member covers
  have later := before node member
  have inside := Node.covers_iff.1 covers
  omega

theorem select_around {start : Nat} {between covered after : List Char} {node : Node}
    {others : List Node}
    (begins : node.start = start + bytes between) (ends : node.stop = node.start + bytes covered)
    (sorted : ∀ other ∈ others, node.start ≤ other.start) :
    selectFrom start (fun offset => !coveredBy (node :: others) offset)
      (between ++ (covered ++ after)) =
      between ++ selectFrom node.stop (fun offset => !coveredBy others offset) after := by
  have kept : selectFrom start (fun offset => !coveredBy (node :: others) offset) between =
      between := by
    refine (select_from_congr fun offset above below => ?_).trans (select_from_all start between)
    rw [not_covered_before, Bool.not_false]
    intro other member
    rcases List.mem_cons.1 member with rfl | listed
    · omega
    · have later := sorted other listed
      omega
  have dropped : selectFrom node.start (fun offset => !coveredBy (node :: others) offset) covered =
      [] := by
    refine (select_from_congr fun offset above below => ?_).trans
      (select_from_none node.start covered)
    have inside : node.covers offset = true := Node.covers_iff.2 ⟨above, by omega⟩
    rw [covered_by_cons, inside, Bool.true_or, Bool.not_true]
  have later : selectFrom node.stop (fun offset => !coveredBy (node :: others) offset) after =
      selectFrom node.stop (fun offset => !coveredBy others offset) after := by
    apply select_from_congr
    intro offset above below
    have outside : node.covers offset = false := by
      rw [← Bool.not_eq_true, Node.covers_iff]
      omega
    rw [covered_by_cons, outside, Bool.false_or]
  rw [select_from_append, kept, ← begins, select_from_append, dropped, ← ends, later,
    List.nil_append]

/-- The induction is on the nodes that are still to come. None of them begins before the cursor,
unless it is empty: then it is passed over, and there is nothing in it to leave out. -/
theorem splice_from_eq {source passed rest : List Char} (split : source = passed ++ rest)
    {nodes : List Node} (fits : ∀ node ∈ nodes, node.FitsIn source)
    (sorted : nodes.Pairwise fun a b => a.start ≤ b.start)
    (apart : nodes.Pairwise Node.Apart)
    (ahead : ∀ node ∈ nodes, bytes passed ≤ node.start ∨ node.stop ≤ node.start) :
    spliceFrom source (bytes passed) nodes =
      some (selectFrom (bytes passed) (fun offset => !coveredBy nodes offset) rest) := by
  induction nodes generalizing passed rest with
  | nil =>
      have whole := cut_between passed rest []
      rw [List.append_nil, ← split, ← bytes_append, ← split] at whole
      have all := select_from_all (bytes passed) rest
      rw [spliceFrom, whole]
      exact congrArg some all.symm
  | cons node others ih =>
      obtain ⟨own, fitting⟩ := List.forall_mem_cons.1 fits
      obtain ⟨first, later⟩ := List.pairwise_cons.1 sorted
      obtain ⟨alone, separate⟩ := List.pairwise_cons.1 apart
      obtain ⟨reach, further⟩ := List.forall_mem_cons.1 ahead
      rw [spliceFrom]
      split
      next reached =>
        obtain ⟨between, covered, after, rfl, begins, ends⟩ := own.divides split reached
        have cutting := cut_between passed between (covered ++ after)
        rw [← split, ← begins] at cutting
        have next : bytes (passed ++ between ++ covered) = node.stop := by
          rw [bytes_append, bytes_append, ← begins, ← ends]
        have parts : source = passed ++ between ++ covered ++ after := by
          rw [split, ← List.append_assoc, ← List.append_assoc]
        have behind : ∀ other ∈ others,
            bytes (passed ++ between ++ covered) ≤ other.start ∨ other.stop ≤ other.start := by
          intro other member
          have sorted' := first other member
          have apart' := alone other member
          rw [Node.Apart] at apart'
          rw [next]
          omega
        have beyond := ih parts fitting later separate behind
        rw [next] at beyond
        rw [cutting, beyond, select_around begins ends first]
        rfl
      next passedOver =>
        have empty : ∀ offset, node.covers offset = false := by
          intro offset
          rw [← Bool.not_eq_true, Node.covers_iff]
          omega
        have same : ∀ offset, coveredBy (node :: others) offset = coveredBy others offset := by
          intro offset
          rw [covered_by_cons, empty, Bool.false_or]
        simp only [same]
        exact ih split fitting later separate further

theorem sorted_by_start (nodes : List Node) :
    (nodes.mergeSort fun a b => a.start ≤ b.start).Pairwise fun a b => a.start ≤ b.start := by
  have total : ∀ a b : Node, (decide (a.start ≤ b.start) || decide (b.start ≤ a.start)) = true := by
    intro a b
    rw [Bool.or_eq_true, decide_eq_true_eq, decide_eq_true_eq]
    exact Nat.le_total _ _
  have chained : ∀ a b c : Node, decide (a.start ≤ b.start) = true →
      decide (b.start ≤ c.start) = true → decide (a.start ≤ c.start) = true := by
    intro a b c
    simp only [decide_eq_true_eq]
    exact Nat.le_trans
  exact (List.pairwise_mergeSort chained total nodes).imp of_decide_eq_true

/-- Nodes that share no offset can be cut out in any order. -/
theorem splice_eq {source : List Char} {nodes : List Node}
    (fits : ∀ node ∈ nodes, node.FitsIn source)
    (apart : nodes.Pairwise Node.Apart) :
    splice source nodes = some (selectFrom 0 (fun offset => !coveredBy nodes offset) source) := by
  rw [splice]
  split
  next none =>
    rw [List.isEmpty_iff.1 none]
    exact congrArg some (select_from_all 0 source).symm
  next =>
    have order := List.mergeSort_perm nodes fun a b => a.start ≤ b.start
    have same : ∀ offset, coveredBy (nodes.mergeSort fun a b => a.start ≤ b.start) offset =
        coveredBy nodes offset := fun offset => order.any_eq
    have spliced := splice_from_eq (List.nil_append source).symm
      (fun node member => fits node (order.mem_iff.1 member)) (sorted_by_start nodes)
      ((order.pairwise_iff Node.Apart.symm).2 apart) fun node _ => .inl (Nat.zero_le node.start)
    simp only [same] at spliced
    exact spliced

variable {source : String} {tree : SyntaxTree}

theorem without_comments_eq (source : String) (tree : SyntaxTree) :
    tree.withoutComments source =
      selectFrom 0 (fun offset => !coveredBy (tree.outermost Node.isComment) offset)
        source.toList :=
  rfl

theorem Nested.splice_comments (nested : tree.Nested)
    (fits : ∀ node ∈ tree.nodes, node.FitsIn source.toList) {collected : List Node}
    (perm : collected.Perm (tree.outermost Node.isComment)) :
    splice source.toList collected = some (tree.withoutComments source) := by
  have fitting : ∀ node ∈ collected, node.FitsIn source.toList := fun node member =>
    fits node (mem_nodes_of_mem_outermost node (perm.mem_iff.1 member)).1
  have same : ∀ offset, coveredBy collected offset =
      coveredBy (tree.outermost Node.isComment) offset :=
    fun offset => perm.any_eq
  rw [splice_eq fitting ((perm.pairwise_iff Node.Apart.symm).2 nested.outermost_apart),
    without_comments_eq]
  simp only [same]

theorem Nested.strip_eq (nested : tree.Nested)
    (fits : ∀ node ∈ tree.nodes, node.FitsIn source.toList) :
    stripComments source tree = some (tree.withoutComments source) := by
  have perm := collect_comments_perm [tree]
  rw [outermostAmong, outermostAmong, List.append_nil] at perm
  exact nested.splice_comments fits perm

theorem covers_whole {node : Node} {source before after : List Char} {c : Char}
    (fits : node.FitsIn source)
    (split : source = before ++ c :: after) {inner : Nat} (bound : inner < c.utf8Size) :
    node.covers (bytes before + inner) = node.covers (bytes before) := by
  subst split
  have start := fits.start.outside_character
  have stop := fits.stop.outside_character
  rw [Bool.eq_iff_iff, Node.covers_iff, Node.covers_iff]
  omega

theorem encoded_without_comments (fits : ∀ node ∈ tree.nodes, node.FitsIn source.toList) :
    encoded (tree.withoutComments source) =
      ((encoded source.toList).zipIdx.filter fun entry =>
        !coveredBy (tree.outermost Node.isComment) entry.2).map Prod.fst := by
  rw [without_comments_eq]
  apply encoded_select
  intro before c after split inner bound
  rw [Nat.zero_add, coveredBy, coveredBy]
  congr 1
  rw [Bool.eq_iff_iff, List.any_eq_true, List.any_eq_true]
  have each : ∀ node ∈ tree.outermost Node.isComment,
      node.covers (bytes before + inner) = node.covers (bytes before) := fun node member =>
    covers_whole (fits node (mem_nodes_of_mem_outermost node member).1) split bound
  constructor
  · rintro ⟨node, member, covers⟩
    exact ⟨node, member, (each node member).symm.trans covers⟩
  · rintro ⟨node, member, covers⟩
    exact ⟨node, member, (each node member).trans covers⟩

end SyntaxTree
end Resemblance
