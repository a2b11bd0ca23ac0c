import Mathlib
import Resemblance.Grammar
import Resemblance.Proofs.EditOutline
import Resemblance.Proofs.LineComments
import Resemblance.Proofs.SharedSubtrees
import Resemblance.Proofs.Symmetry

/-!
How much there is to count in a source: no more tokens than characters, and no more of everything
else than nodes in the parse tree. Where a machine can hold the source and its tree, all counts are
those of a machine.
-/

namespace Resemblance

open Text (bytes select stopLines placed)

/-- A source and its parse tree fit into the memory of a machine with addresses of sixty-four
bits. -/
structure Grammar.Holds (grammar : Grammar) (source : String) : Prop where
  text : source.utf8ByteSize < 2 ^ 64
  tree : (grammar source).size < 2 ^ 64

section Texts

variable (cs : List Char)

theorem length_le_bytes : cs.length ≤ bytes cs := by
  induction cs with
  | nil => exact Nat.le_refl 0
  | cons c rest ih =>
      have positive := c.utf8Size_pos
      rw [List.length_cons, bytes]
      omega

theorem length_le_byte_size (source : String) : source.toList.length ≤ source.utf8ByteSize := by
  have size := Text.utf8_byte_size_eq_bytes source.toList
  rw [String.ofList_toList] at size
  rw [size]
  exact length_le_bytes source.toList

theorem Token.chop_length_le : (Token.chop cs).length ≤ cs.length := by
  induction cs with
  | nil => exact Nat.le_refl 0
  | cons c rest ih =>
      have glued : (Token.glue c (Token.chop rest)).length ≤ (Token.chop rest).length + 1 := by
        cases Token.chop rest with
        | nil => exact Nat.le_refl 1
        | cons token tokens => exact Nat.le_succ _
      rw [Token.chop, List.length_cons]
      split
      · split
        · omega
        · rw [List.length_cons]
          omega
      · split
        · omega
        · rw [List.length_cons]
          omega

theorem Token.tokens_length_le (source : String) :
    (Token.tokens source).length ≤ source.utf8ByteSize := by
  rw [Token.tokens, List.length_map]
  exact (Token.chop_length_le source.toList).trans (length_le_byte_size source)

theorem stop_lines_length_le (inside : Bool) : (stopLines inside cs).length ≤ cs.length := by
  induction cs generalizing inside with
  | nil => exact Nat.le_refl 0
  | cons c rest ih =>
      have stopped := ih true
      have open_line := ih false
      rw [stopLines, List.length_cons]
      split
      · rw [List.length_cons]
        omega
      · split
        · omega
        · rw [List.length_cons]
          omega

theorem select_length_le (keep : Nat → Bool) : (select keep cs).length ≤ cs.length := by
  have placed_length : ∀ start, (placed start cs).length = cs.length := by
    induction cs with
    | nil => exact fun start => rfl
    | cons c rest ih => exact fun start => congrArg Nat.succ (ih _)
  rw [select, List.length_map, ← placed_length 0]
  exact List.length_filter_le _ _

end Texts

namespace SyntaxTree

theorem outermost_length_le (wanted : Node → Bool) (tree : SyntaxTree) :
    (tree.outermost wanted).length ≤ tree.size := by
  induction tree using tree_induction with
  | step head children ih =>
      have below : (outermostAmong wanted children).length ≤ sizes children := by
        induction children with
        | nil => exact Nat.le_refl 0
        | cons child rest ih' =>
            have own := ih child List.mem_cons_self
            have others := ih' fun tree member => ih tree (List.mem_cons_of_mem child member)
            rw [outermostAmong, sizes, List.length_append]
            omega
      rw [outermost, size]
      split
      · rw [List.length_singleton]
        omega
      · omega

theorem without_comments_length_le (source : String) (tree : SyntaxTree) :
    (tree.withoutComments source).length ≤ source.toList.length := by
  unfold withoutComments
  exact select_length_le source.toList _

end SyntaxTree

theorem ShapeTree.of_tree_size_le (source : List Char) (tree : SyntaxTree) :
    (ShapeTree.ofTree source tree).size ≤ tree.size := by
  induction tree using SyntaxTree.tree_induction with
  | step head children ih =>
      have below : sizes (ofTrees source children) ≤ SyntaxTree.sizes children := by
        induction children with
        | nil => exact Nat.le_refl 0
        | cons child rest ih' =>
            have own := ih child List.mem_cons_self
            have others := ih' fun tree member => ih tree (List.mem_cons_of_mem child member)
            rw [ofTrees, SyntaxTree.sizes]
            split
            · rw [sizes]
              omega
            · omega
      rw [ofTree, size, SyntaxTree.size]
      omega

namespace Vocabulary

theorem set_of_length_le (texts : List String) : (setOf texts).length ≤ texts.length := by
  have once := nodup_set_of texts
  have listed : setOf texts ⊆ texts := by
    intro text member
    have perm := List.mergeSort_perm texts.eraseDups fun a b => textLe a b
    exact List.mem_eraseDups.1 ((perm.mem_iff).1 member)
  exact (List.subperm_of_subset once listed).length_le

/-- Sets of no more texts than that. -/
structure Short (most : Nat) (vocabulary : Vocabulary) : Prop where
  tokens : vocabulary.tokens.length ≤ most
  words : vocabulary.words.length ≤ most
  identifiers : vocabulary.identifiers.length ≤ most
  keywords : vocabulary.keywords.length ≤ most
  names : vocabulary.names.length ≤ most

theorem short_of_stripped {stripped : List Char} {names : Option (List String)} {most : Nat}
    (few : (Token.chop stripped).length ≤ most)
    (known : ∀ texts, names = some texts → texts.length ≤ most) :
    (ofStripped stripped names).Short most := by
  have words : (ofStripped stripped names).words.length ≤ most := by
    apply (set_of_length_le _).trans
    rw [List.length_map]
    exact (List.length_filter_le _ _).trans few
  refine ⟨?_, words, (List.length_filter_le _ _).trans words,
    (List.length_filter_le _ _).trans words, ?_⟩
  · apply (set_of_length_le _).trans
    rw [List.length_map]
    exact few
  · cases names with
    | none => exact words
    | some texts =>
        apply (set_of_length_le _).trans
        rw [List.length_map]
        exact known texts rfl

theorem short_of_source {source : String} {tree : Option SyntaxTree} {most : Nat}
    (text : source.utf8ByteSize ≤ most) (nodes : ∀ found, tree = some found → found.size ≤ most) :
    (ofSource source tree).Short most := by
  have characters := (length_le_byte_size source).trans text
  cases tree with
  | none =>
      unfold ofSource
      refine short_of_stripped ?_ fun _ known => nomatch known
      rw [chop_without_line_comments]
      exact (Token.chop_length_le _).trans ((stop_lines_length_le _ false).trans characters)
  | some tree =>
      unfold ofSource
      apply short_of_stripped
      · exact (Token.chop_length_le _).trans
          ((tree.without_comments_length_le source).trans characters)
      · intro texts known
        obtain rfl := Option.some.inj known
        rw [SyntaxTree.identifiers, List.length_map]
        exact (SyntaxTree.outermost_length_le _ tree).trans (nodes tree rfl)

end Vocabulary

/-- A shape whose measures are those of a machine. -/
structure ShapeProfile.Fits (profile : ShapeProfile) : Prop where
  nodes : profile.metrics.nodeCount < 2 ^ 64
  depth : profile.metrics.maxDepth < 2 ^ 64
  histogram : ∃ kinds, profile.metrics.histogram.CountsOf kinds ∧ kinds.length < 2 ^ 64
  once : profile.subtrees.Nodup
  subtrees : profile.subtrees.length < 2 ^ 64
  unit : ∀ tree, profile.editTree = some tree → tree.weight < 2 ^ 66
  weighted : ∀ tree, profile.weightedEditTree = some tree → tree.weight < 2 ^ 66

theorem Edit.of_shape_weight_le {H : Type} {hasher : Hasher H} {weigh : String → Nat}
    {shape : Shape}
    {tree : WeighedTree H} (light : ∀ kind, weigh kind ≤ 3)
    (built : Edit.ofShape hasher weigh shape = some tree) : tree.weight ≤ 3 * shape.size := by
  obtain ⟨root, -, rfl⟩ := Option.map_eq_some_iff.1 built
  dsimp only
  rw [← Array.foldl_toList]
  have run : ∀ (nodes : List ShapeNode) (start : Nat),
      nodes.foldl (fun total node => total + weigh node.kind) start ≤ start + 3 * nodes.length := by
    intro nodes
    induction nodes with
    | nil => exact fun start => Nat.le_refl start
    | cons node rest ih =>
        intro start
        have own := light node.kind
        have others := ih (start + weigh node.kind)
        rw [List.foldl_cons, List.length_cons]
        omega
  have whole := run shape.nodes.toList 0
  rwa [Nat.zero_add, Array.length_toList] at whole

theorem ShapeProfile.fits_of_tree {source : List Char} {tree : SyntaxTree} (limit : Nat)
    (small : tree.size < 2 ^ 64) : (ShapeProfile.ofShape limit (.ofTree source tree)).Fits := by
  have size : (ShapeTree.ofTree source tree).size < 2 ^ 64 :=
    (ShapeTree.of_tree_size_le source tree).trans_lt small
  have flat : (Shape.ofTree source tree).size < 2 ^ 64 := by rwa [Shape.of_tree_size]
  refine ⟨?_, ?_, ?_, nodup_erase_dups _, ?_, ?_, ?_⟩
  · exact flat
  · have height := (ShapeTree.ofTree source tree).height_le_size
    rw [← ShapeMetrics.of_tree_max_depth] at height
    exact height.trans_lt size
  · refine ⟨_, ShapeMetrics.of_tree_counts source tree, ?_⟩
    rwa [ShapeTree.kinds_length]
  · exact (Shape.digests_length_le _ source tree).trans_lt flat
  · intro weighed found
    have built := (Option.ite_none_right_eq_some.1 found).2
    have light := Edit.of_shape_weight_le (fun _ => Nat.le_add_left 1 2) built
    omega
  · intro weighed found
    have built := (Option.ite_none_right_eq_some.1 found).2
    have light := Edit.of_shape_weight_le Edit.kind_weight_le built
    omega

theorem Grammar.parsed_tree_eq {grammar : Grammar} {source : String} {tree : SyntaxTree}
    (found : (grammar.checkParsed source).2 = some tree) : tree = grammar source := by
  unfold Grammar.checkParsed at found
  cases valid : (Validity.ofTree source (grammar source)).isValid with
  | false => simp [valid] at found
  | true =>
      simp only [valid, if_true] at found
      exact (Option.some.inj found).symm

theorem Analysis.fits_of_source {grammar : Grammar} {source : String} (holds : grammar.Holds source)
    (limit : Nat) :
    (ofSource grammar limit source).vocabulary.Short (2 ^ 64) ∧
      (ofSource grammar limit source).vocabulary.Distinct ∧
      ∀ profile, (ofSource grammar limit source).profile = some profile → profile.Fits := by
  refine ⟨?_, Vocabulary.distinct_of_source _ _, ?_⟩
  · apply Vocabulary.short_of_source holds.text.le
    intro tree found
    rw [Grammar.parsed_tree_eq found]
    exact holds.tree.le
  · intro profile found
    obtain ⟨tree, parsed, rfl⟩ := Option.map_eq_some_iff.1 found
    rw [Grammar.parsed_tree_eq parsed]
    exact ShapeProfile.fits_of_tree limit holds.tree

end Resemblance
