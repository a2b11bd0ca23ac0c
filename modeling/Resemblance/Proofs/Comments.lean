import Resemblance.Proofs.Collisions
import Resemblance.Proofs.Deletion
import Resemblance.Proofs.Overlap
import Resemblance.ShapeScores

/-!
Comments and the digests of a shape. A shape drops comments, but the text of a leaf is all that the
node covers, so that a comment inside a node that keeps no child stays in the text of a leaf.
Inserting comments leaves the digests as they are exactly where no comment falls into a leaf.
-/

namespace Resemblance

def Node.covers (node : Node) (offset : Nat) : Bool :=
  decide (node.start ≤ offset) && decide (offset < node.stop)

def coveredBy (comments : List Node) (offset : Nat) : Bool :=
  comments.any fun comment => comment.covers offset

theorem Node.covers_iff {node : Node} {offset : Nat} :
    node.covers offset = true ↔ node.start ≤ offset ∧ offset < node.stop := by
  rw [covers, Bool.and_eq_true, decide_eq_true_eq, decide_eq_true_eq]

namespace SyntaxTree

mutual

/-- The second tree is the first one with comments inserted, the listed ones in source order. Nodes
correspond by kind, and begin and end where the deletion of what is gone moves those of the second
tree. -/
inductive Commented (source : List Char) (gone : Nat → Bool) :
    List Node → SyntaxTree → SyntaxTree → Prop
  | node {comments : List Node} {head head' : Node} {children children' : List SyntaxTree}
      (kind : head.kind = head'.kind) (named : head.named = head'.named)
      (start : head.start = Text.moved gone source head'.start)
      (stop : head.stop = Text.moved gone source head'.stop)
      (below : CommentedAmong source gone comments children children') :
      Commented source gone comments (.node head children) (.node head' children')

/-- The second list of trees is the first one with comments inserted between and inside its
trees. -/
inductive CommentedAmong (source : List Char) (gone : Nat → Bool) :
    List Node → List SyntaxTree → List SyntaxTree → Prop
  | nil : CommentedAmong source gone [] [] []
  | keep {comments others : List Node} {tree tree' : SyntaxTree} {rest rest' : List SyntaxTree}
      (first : Commented source gone comments tree tree')
      (later : CommentedAmong source gone others rest rest') :
      CommentedAmong source gone (comments ++ others) (tree :: rest) (tree' :: rest')
  | insert {others : List Node} {comment : SyntaxTree} {rest rest' : List SyntaxTree}
      (isComment : comment.head.isComment = true)
      (later : CommentedAmong source gone others rest rest') :
      CommentedAmong source gone (comment.head :: others) rest (comment :: rest')

end

mutual

/-- The nodes that become leaves of the shape: they are kept, but none of their children is. -/
def leaves : SyntaxTree → List Node
  | node head children =>
      if (children.filter isKept).isEmpty then [head] else leavesAmong children

def leavesAmong : List SyntaxTree → List Node
  | [] => []
  | tree :: rest => if tree.isKept then leaves tree ++ leavesAmong rest else leavesAmong rest

end

/-- No character of a node's text is gone. -/
def Whole (source : List Char) (gone : Nat → Bool) (node : Node) : Prop :=
  ∀ entry ∈ Text.placed 0 source, node.covers entry.1 = true → gone entry.1 = false

instance (source : List Char) (gone : Nat → Bool) (node : Node) :
    Decidable (Whole source gone node) :=
  inferInstanceAs (Decidable (∀ entry ∈ Text.placed 0 source, _))

/-- A parse tree of a text, and one of the same text with comments inserted: deleting the comments
from the second text leaves the first, their nodes are what the second tree has more than the first,
and what has no child in the second tree keeps its text. -/
structure Inserted (comments : List Node) (source : List Char) (tree : SyntaxTree)
    (source' : List Char) (tree' : SyntaxTree) : Prop where
  text : source = Text.without (coveredBy comments) source'
  trees : Commented source' (coveredBy comments) comments tree tree'
  childless : ∀ below ∈ tree'.subtrees, below.children.isEmpty = true → below.head ∉ comments →
    Whole source' (coveredBy comments) below.head

/-- No comment shares a character with a leaf. -/
def LeavesUntouched (comments : List Node) (source : List Char) (tree : SyntaxTree) : Prop :=
  ∀ leaf ∈ tree.leaves, Whole source (coveredBy comments) leaf

instance (comments : List Node) (source : List Char) (tree : SyntaxTree) :
    Decidable (LeavesUntouched comments source tree) :=
  inferInstanceAs (Decidable (∀ leaf ∈ tree.leaves, _))

end SyntaxTree

theorem Node.text_in_without {gone : Nat → Bool} {source : List Char} {head head' : Node}
    (start : head.start = Text.moved gone source head'.start)
    (stop : head.stop = Text.moved gone source head'.stop) :
    head.textIn (Text.without gone source) =
      String.ofList (Text.select (fun place => head'.covers place && !gone place) source) := by
  rw [Node.textIn, start, stop, Text.slice_without]
  rfl

theorem Node.text_in_eq_select (source : List Char) (head : Node) :
    head.textIn source = String.ofList (Text.select head.covers source) :=
  rfl

namespace ShapeTree

/-- How a tree without comments relates to one with comments: the same nodes with shorter leaf
texts, which are only as long where nothing has been deleted from them. -/
structure Thinned (whole : Prop) (tree tree' : ShapeTree) : Prop where
  size : tree.size = tree'.size
  shorter : tree.leafLength ≤ tree'.leafLength
  whole_of_length : tree.leafLength = tree'.leafLength → whole
  same_of_whole : whole → tree = tree'

structure ThinnedAmong (whole : Prop) (trees trees' : List ShapeTree) : Prop where
  length : trees.length = trees'.length
  size : sizes trees = sizes trees'
  shorter : leafLengths trees ≤ leafLengths trees'
  whole_of_length : leafLengths trees = leafLengths trees' → whole
  same_of_whole : whole → trees = trees'

theorem thinned_nil (whole : Prop) (holds : whole) : ThinnedAmong whole [] [] where
  length := rfl
  size := rfl
  shorter := Nat.le_refl _
  whole_of_length _ := holds
  same_of_whole _ := rfl

theorem Thinned.cons {first later : Prop} {tree tree' : ShapeTree} {rest rest' : List ShapeTree}
    (thinned : Thinned first tree tree') (others : ThinnedAmong later rest rest') :
    ThinnedAmong (first ∧ later) (tree :: rest) (tree' :: rest') where
  length := by rw [List.length_cons, List.length_cons, others.length]
  size := by rw [sizes, sizes, thinned.size, others.size]
  shorter := Nat.add_le_add thinned.shorter others.shorter
  whole_of_length equal := by
    have left := thinned.shorter
    have right := others.shorter
    simp only [leafLengths] at equal
    exact ⟨thinned.whole_of_length (by omega), others.whole_of_length (by omega)⟩
  same_of_whole both := by rw [thinned.same_of_whole both.1, others.same_of_whole both.2]

end ShapeTree

namespace SyntaxTree

open ShapeTree (ofTree ofTrees Thinned ThinnedAmong)

variable {comments : List Node} {source : List Char} {gone : Nat → Bool}

theorem leaf_thinned {kind : String} {head head' : Node}
    (start : head.start = Text.moved gone source head'.start)
    (stop : head.stop = Text.moved gone source head'.stop) :
    Thinned (Whole source gone head')
      (.node kind (some (head.textIn (Text.without gone source))) [])
      (.node kind (some (head'.textIn source)) []) := by
  have sublist := Text.select_and_sublist head'.covers (fun place => !gone place) source
  have length_iff := Text.select_and_length_eq_iff head'.covers (fun place => !gone place) source
  rw [Node.text_in_without start stop, Node.text_in_eq_select]
  refine ⟨rfl, ?_, ?_, ?_⟩
  · simpa [ShapeTree.leafLength, ShapeTree.textLength] using sublist.length_le
  · intro equal entry member inside
    simp only [ShapeTree.leafLength, ShapeTree.textLength, String.length_ofList] at equal
    simpa using length_iff.1 (Nat.add_right_cancel equal) entry member inside
  · intro whole
    have equal := length_iff.2 fun entry member inside => by
      simpa using whole entry member inside
    rw [sublist.eq_of_length equal]

theorem Commented.kept_eq {tree tree' : SyntaxTree}
    (commented : Commented source gone comments tree tree') : tree.isKept = tree'.isKept := by
  cases commented with
  | node kind named start stop below =>
      simp only [isKept, head, Node.isComment, kind, named]

theorem Commented.single {tree tree' : SyntaxTree}
    (commented : Commented source gone comments tree tree') :
    CommentedAmong source gone comments [tree] [tree'] := by
  have among := CommentedAmong.keep commented .nil
  rwa [List.append_nil] at among

theorem not_kept_of_comment {tree : SyntaxTree} (isComment : tree.head.isComment = true) :
    tree.isKept = false := by
  rw [isKept, isComment, Bool.not_true, Bool.and_false]

/-- The induction is on the list with the comments: an inserted comment is dropped, and any other
tree is kept on both sides or on none. -/
theorem CommentedAmong.thinned {trees trees' : List SyntaxTree}
    (commented : CommentedAmong source gone comments trees trees')
    (thinned : ∀ tree' ∈ trees', ∀ comments tree, Commented source gone comments tree tree' →
      Thinned (∀ leaf ∈ tree'.leaves, Whole source gone leaf)
        (ofTree (Text.without gone source) tree) (ofTree source tree')) :
    ThinnedAmong (∀ leaf ∈ leavesAmong trees', Whole source gone leaf)
      (ofTrees (Text.without gone source) trees) (ofTrees source trees') := by
  induction trees' generalizing comments trees with
  | nil =>
      cases commented with
      | nil => exact ShapeTree.thinned_nil _ fun leaf member => absurd member List.not_mem_nil
  | cons tree' rest' ih =>
      have below := fun other member => thinned other (List.mem_cons_of_mem tree' member)
      cases commented with
      | keep first later =>
          have others := ih later below
          rw [ofTrees, ofTrees, leavesAmong, first.kept_eq]
          cases keeps : tree'.isKept with
          | false => exact others
          | true =>
              have both := (thinned tree' (by simp) _ _ first).cons others
              simpa only [if_true, List.forall_mem_append] using both
      | insert isComment later =>
          have others := ih later below
          rw [ofTrees, leavesAmong, not_kept_of_comment isComment]
          exact others

theorem Commented.thinned {tree tree' : SyntaxTree}
    (commented : Commented source gone comments tree tree') :
    Thinned (∀ leaf ∈ tree'.leaves, Whole source gone leaf)
      (ofTree (Text.without gone source) tree) (ofTree source tree') := by
  induction tree' using tree_induction generalizing comments tree with
  | step head' children' ih =>
      cases commented with
      | @node _ head _ children _ kind named start stop below =>
          have among := below.thinned fun child member _ _ inner => ih child member inner
          have reduced' := ShapeTree.of_trees_eq_map source children'
          rw [ofTree, ofTree, leaves, kind]
          cases leafy : (children'.filter isKept).isEmpty with
          | true =>
              have none_left' : ofTrees source children' = [] := by
                rw [reduced', List.isEmpty_iff.1 leafy, List.map_nil]
              have none_left : ofTrees (Text.without gone source) children = [] := by
                rw [← List.length_eq_zero_iff, among.length, none_left', List.length_nil]
              rw [none_left, none_left']
              simpa using leaf_thinned start stop
          | false =>
              have filled' : (ofTrees source children').isEmpty = false := by
                rw [reduced', List.isEmpty_map, leafy]
              have filled : (ofTrees (Text.without gone source) children).isEmpty = false := by
                rw [List.isEmpty_eq_false_iff, ← List.length_pos_iff] at filled' ⊢
                rw [among.length]
                exact filled'
              rw [filled, filled']
              refine ⟨?_, ?_, ?_, ?_⟩
              · simp only [ShapeTree.size, among.size]
              · exact Nat.add_le_add_left among.shorter _
              · intro equal
                exact among.whole_of_length (Nat.add_left_cancel equal)
              · intro whole
                rw [among.same_of_whole whole]
                rfl

end SyntaxTree

section Digests

open SyntaxTree ShapeTree

variable {H : Type} [BEq H] [LawfulBEq H]

theorem mem_digests_of_tree (hasher : Hasher H) (source : List Char) (tree : SyntaxTree)
    (found : H) :
    found ∈ (Shape.ofTree source tree).digests hasher ↔
      found ∈ (ShapeTree.ofTree source tree).subtrees.map (digest hasher) := by
  rw [Shape.digests_of_tree, List.mem_eraseDups]
  rfl

/-- Inserting comments leaves the digests of a shape as they are exactly where no comment falls into
a leaf; the shape itself is then unchanged. Nothing is asked of the digests but that they do not
collide among the subtrees of the two shapes. -/
theorem digests_unchanged_iff_leaves_untouched (hasher : Hasher H) {comments : List Node}
    {source source' : List Char} {tree tree' : SyntaxTree}
    (inserted : Inserted comments source tree source' tree')
    (separates : hasher.Separates
      (subtreesOfBoth (ShapeTree.ofTree source tree) (ShapeTree.ofTree source' tree')))
    (limit limit' : Nat) :
    let profile := ShapeProfile.ofShapeWith hasher limit (Shape.ofTree source tree)
    let profile' := ShapeProfile.ofShapeWith hasher limit' (Shape.ofTree source' tree')
    ((∀ found, found ∈ profile.subtrees ↔ found ∈ profile'.subtrees) ↔
        LeavesUntouched comments source' tree') ∧
      ((Overlap.ratio profile.subtrees profile'.subtrees).Full ↔
        LeavesUntouched comments source' tree') ∧
      (LeavesUntouched comments source' tree' →
        Shape.ofTree source tree = Shape.ofTree source' tree') := by
  intro profile profile'
  have thinned := inserted.trees.thinned
  rw [← inserted.text] at thinned
  have unchanged : LeavesUntouched comments source' tree' →
      Shape.ofTree source tree = Shape.ofTree source' tree' := by
    intro untouched
    rw [Shape.of_tree_eq_rows, Shape.of_tree_eq_rows, thinned.same_of_whole untouched]
  have same_members : (∀ found, found ∈ profile.subtrees ↔ found ∈ profile'.subtrees) ↔
      LeavesUntouched comments source' tree' := by
    constructor
    · intro same
      apply thinned.whole_of_length
      apply separates.same_leaf_length thinned.size
      rw [← mem_digests_of_tree]
      apply (same _).1
      apply (mem_digests_of_tree hasher source tree _).2
      exact List.mem_map_of_mem (mem_subtrees_self _)
    · intro untouched found
      show found ∈ (Shape.ofTree source tree).digests hasher ↔
        found ∈ (Shape.ofTree source' tree').digests hasher
      rw [unchanged untouched]
  have full := Overlap.ratio_full_iff (nodup_erase_dups _) (nodup_erase_dups _)
    (a := profile.subtrees) (b := profile'.subtrees)
  exact ⟨same_members, full.trans same_members, unchanged⟩

def soundNode (kind : String) (start stop : Nat) : Node :=
  ⟨kind, true, false, false, false, start, stop⟩

theorem trailing_comment_keeps_digests :
    let comment := soundNode "comment" 2 5
    let statement := SyntaxTree.node (soundNode "expression_statement" 0 1)
      [.node (soundNode "identifier" 0 1) []]
    let tree := SyntaxTree.node (soundNode "module" 0 3) [statement]
    let tree' := SyntaxTree.node (soundNode "module" 0 6) [statement, .node comment []]
    Inserted [comment] ['x', ' ', '\n'] tree ['x', ' ', '#', ' ', 'c', '\n'] tree' ∧
      LeavesUntouched [comment] ['x', ' ', '#', ' ', 'c', '\n'] tree' ∧
      ∀ found,
        found ∈ (ShapeProfile.ofShape 10 (Shape.ofTree ['x', ' ', '\n'] tree)).subtrees ↔
          found ∈ (ShapeProfile.ofShape 0
            (Shape.ofTree ['x', ' ', '#', ' ', 'c', '\n'] tree')).subtrees := by
  intro comment statement tree tree'
  have same : Commented ['x', ' ', '#', ' ', 'c', '\n'] (coveredBy [comment]) [] statement
      statement :=
    .node rfl rfl (by decide) (by decide)
      (Commented.node rfl rfl (by decide) (by decide) .nil).single
  have last : CommentedAmong ['x', ' ', '#', ' ', 'c', '\n'] (coveredBy [comment]) [comment] []
      [.node comment []] :=
    .insert (show (SyntaxTree.node comment []).head.isComment = true from rfl) .nil
  have inserted : Inserted [comment] ['x', ' ', '\n'] tree ['x', ' ', '#', ' ', 'c', '\n'] tree' :=
    ⟨by decide, .node rfl rfl (by decide) (by decide) (.keep same last), by decide⟩
  have untouched : LeavesUntouched [comment] ['x', ' ', '#', ' ', 'c', '\n'] tree' := by decide
  have unchanged := digests_unchanged_iff_leaves_untouched ShapeTree.hasher inserted
    (hasher_separates _) 10 0
  exact ⟨inserted, untouched, unchanged.1.2 untouched⟩

/-- A call that ends at an offset, with what stands between its parentheses. -/
def callTree (stop : Nat) (arguments : List SyntaxTree) : SyntaxTree :=
  .node (soundNode "module" 0 (stop + 1))
    [.node (soundNode "expression_statement" 0 stop)
      [.node (soundNode "call" 0 stop)
        [.node (soundNode "identifier" 0 1) [],
         .node (soundNode "argument_list" 1 stop) arguments]]]

def bareCall : List Char := ['f', '(', '\n', ')', '\n']

def commentedCall : List Char := ['f', '(', '#', ' ', 'c', '\n', ')', '\n']

def callComment : Node := soundNode "comment" 2 5

theorem call_comment_inserted :
    Inserted [callComment] bareCall (callTree 4 []) commentedCall
      (callTree 7 [.node callComment []]) where
  text := by decide
  trees := by
    have below : CommentedAmong commentedCall (coveredBy [callComment]) [callComment] []
        [.node callComment []] :=
      .insert (show (SyntaxTree.node callComment []).head.isComment = true from rfl) .nil
    have arguments : Commented commentedCall (coveredBy [callComment]) [callComment]
        (.node (soundNode "argument_list" 1 4) [])
        (.node (soundNode "argument_list" 1 7) [.node callComment []]) :=
      .node rfl rfl (by decide) (by decide) below
    have name : Commented commentedCall (coveredBy [callComment]) []
        (.node (soundNode "identifier" 0 1) []) (.node (soundNode "identifier" 0 1) []) :=
      .node rfl rfl (by decide) (by decide) .nil
    have parts := CommentedAmong.keep name arguments.single
    have call : Commented commentedCall (coveredBy [callComment]) [callComment]
        (.node (soundNode "call" 0 4) _) (.node (soundNode "call" 0 7) _) :=
      .node rfl rfl (by decide) (by decide) parts
    have statement : Commented commentedCall (coveredBy [callComment]) [callComment]
        (.node (soundNode "expression_statement" 0 4) _)
        (.node (soundNode "expression_statement" 0 7) _) :=
      .node rfl rfl (by decide) (by decide) call.single
    exact .node rfl rfl (by decide) (by decide) statement.single
  childless := by decide

/-- The digests never collide, and still the comment changes them. -/
theorem call_comment_changes_digests :
    let profile := ShapeProfile.ofShape 0 (Shape.ofTree bareCall (callTree 4 []))
    let profile' := ShapeProfile.ofShape 0
      (Shape.ofTree commentedCall (callTree 7 [.node callComment []]))
    Inserted [callComment] bareCall (callTree 4 []) commentedCall
        (callTree 7 [.node callComment []]) ∧
      (∀ trees, ShapeTree.hasher.Separates trees) ∧
      ¬ (∀ found, found ∈ profile.subtrees ↔ found ∈ profile'.subtrees) ∧
      ¬ (Overlap.ratio profile.subtrees profile'.subtrees).Full := by
  intro profile profile'
  have changed : ¬ (∀ found, found ∈ profile.subtrees ↔ found ∈ profile'.subtrees) := by
    intro same
    have found : digest ShapeTree.hasher (ShapeTree.ofTree bareCall (callTree 4 [])) ∈
        profile'.subtrees := by
      apply (same _).1
      apply (mem_digests_of_tree _ _ _ _).2
      exact List.mem_map_of_mem (mem_subtrees_self _)
    have equal := (hasher_separates _).same_leaf_length (by decide)
      ((mem_digests_of_tree _ _ _ _).1 found)
    revert equal
    decide
  refine ⟨call_comment_inserted, hasher_separates, changed, ?_⟩
  intro full
  exact changed ((Overlap.ratio_full_iff (nodup_erase_dups _) (nodup_erase_dups _)).1 full)

end Digests
end Resemblance
