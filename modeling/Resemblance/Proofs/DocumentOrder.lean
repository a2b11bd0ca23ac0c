import Resemblance.Proofs.CommentStripping

/-!
Names in document order. A place in a tree says of each node on the way down which of its children
comes next, and lexicographic order of places is the order in which a tree is read from the root
down. The names of a source are the texts of its identifier nodes that stand below no other one, in
this order; a search with a stack comes to the same, and in a tree whose siblings stand in order the
names begin one after the other.
-/

namespace Resemblance

open Text

def Node.isIdentifier (node : Node) : Bool :=
  node.kind == "identifier"

namespace SyntaxTree

def at? : SyntaxTree → List Nat → Option SyntaxTree
  | tree, [] => some tree
  | node _ children, index :: place => children[index]?.bind fun child => child.at? place

def nodeAt? (tree : SyntaxTree) (place : List Nat) : Option Node :=
  (tree.at? place).map head

/-- The node at a place is wanted, and no node above the place is. -/
structure OutermostAt (wanted : Node → Bool) (tree : SyntaxTree) (place : List Nat)
    (node : Node) : Prop where
  there : tree.nodeAt? place = some node
  isWanted : wanted node = true
  uncovered : ∀ above index below, place = above ++ index :: below →
    ∀ outer, tree.nodeAt? above = some outer → wanted outer = false

/-- The identifier nodes among the trees on a stack, the top one first. What stands below one of
them is passed over; the children of any other node go on the stack from the last to the first, so
that the first is on top. -/
def collectIdentifiers : List SyntaxTree → List Node
  | [] => []
  | node head children :: rest =>
      if head.isIdentifier then head :: collectIdentifiers rest
      else collectIdentifiers (children ++ rest)
termination_by stack => sizes stack
decreasing_by all_goals simp only [sizes, size, sizes_append]; omega

mutual

def outermostPlaced (wanted : Node → Bool) : SyntaxTree → List (List Nat × Node)
  | node head children =>
      if wanted head then [([], head)] else outermostPlacedFrom wanted 0 children

def outermostPlacedFrom (wanted : Node → Bool) (index : Nat) :
    List SyntaxTree → List (List Nat × Node)
  | [] => []
  | tree :: rest =>
      (outermostPlaced wanted tree).map (Prod.map (index :: ·) id) ++
        outermostPlacedFrom wanted (index + 1) rest

end

section Placed

variable {wanted : Node → Bool} {place : List Nat} {found : Node}

theorem placed_from_nodes {trees : List SyntaxTree} (index : Nat)
    (each : ∀ tree ∈ trees, (outermostPlaced wanted tree).map Prod.snd = tree.outermost wanted) :
    (outermostPlacedFrom wanted index trees).map Prod.snd = outermostAmong wanted trees := by
  induction trees generalizing index with
  | nil => rfl
  | cons tree rest ih =>
      obtain ⟨first, later⟩ := List.forall_mem_cons.1 each
      rw [outermostPlacedFrom, outermostAmong, List.map_append, ih (index + 1) later,
        List.map_map, ← first]
      rfl

theorem placed_nodes (tree : SyntaxTree) :
    (outermostPlaced wanted tree).map Prod.snd = tree.outermost wanted := by
  induction tree using tree_induction with
  | step head children ih =>
      rw [outermostPlaced, outermost]
      split
      · rfl
      · exact placed_from_nodes 0 ih

theorem mem_placed_from {trees : List SyntaxTree} {index : Nat} :
    (place, found) ∈ outermostPlacedFrom wanted index trees ↔ ∃ i below tree,
      place = (index + i) :: below ∧ trees[i]? = some tree ∧
      (below, found) ∈ outermostPlaced wanted tree := by
  induction trees generalizing index with
  | nil => simp [outermostPlacedFrom]
  | cons tree rest ih =>
      rw [outermostPlacedFrom, List.mem_append, ih, List.mem_map]
      constructor
      · rintro (⟨⟨below, node⟩, member, same⟩ | ⟨i, below, other, rfl, listed, member⟩)
        · obtain ⟨rfl, rfl⟩ := Prod.mk.inj same
          exact ⟨0, below, tree, rfl, rfl, member⟩
        · exact ⟨i + 1, below, other, by rw [Nat.add_right_comm, Nat.add_assoc], listed, member⟩
      · rintro ⟨i, below, other, rfl, listed, member⟩
        cases i with
        | zero =>
            obtain rfl := Option.some.inj listed
            exact .inl ⟨(below, found), member, rfl⟩
        | succ i =>
            exact .inr ⟨i, below, other, by rw [Nat.add_right_comm, Nat.add_assoc], listed, member⟩

theorem outermost_at_root_iff {head : Node} {children : List SyntaxTree} :
    OutermostAt wanted (node head children) [] found ↔ found = head ∧ wanted head = true := by
  constructor
  · intro outermost
    obtain rfl : head = found := Option.some.inj outermost.there
    exact ⟨rfl, outermost.isWanted⟩
  · rintro ⟨rfl, own⟩
    exact ⟨rfl, own, fun above index below split => absurd split (by simp)⟩

theorem node_at_below (head : Node) (children : List SyntaxTree) (index : Nat) (place : List Nat) :
    (node head children).nodeAt? (index :: place) =
      children[index]?.bind fun child => child.nodeAt? place := by
  rw [nodeAt?, at?, Option.map_bind]
  rfl

theorem outermost_at_below_iff {head : Node} {children : List SyntaxTree} {index : Nat} :
    OutermostAt wanted (node head children) (index :: place) found ↔ wanted head = false ∧
      ∃ child, children[index]? = some child ∧ OutermostAt wanted child place found := by
  constructor
  · intro outermost
    have there := outermost.there
    rw [node_at_below, Option.bind_eq_some_iff] at there
    obtain ⟨child, listed, there⟩ := there
    refine ⟨outermost.uncovered [] index place rfl head rfl, child, listed, there,
      outermost.isWanted, ?_⟩
    intro above next below split outer reached
    refine outermost.uncovered (index :: above) next below (congrArg _ split) outer ?_
    rw [node_at_below, listed]
    exact reached
  · rintro ⟨other, child, listed, outermost⟩
    refine ⟨?_, outermost.isWanted, ?_⟩
    · rw [node_at_below, listed]
      exact outermost.there
    · intro above next below split outer reached
      cases above with
      | nil =>
          obtain rfl : head = outer := Option.some.inj reached
          exact other
      | cons first above =>
          obtain ⟨rfl, later⟩ := List.cons.inj split
          rw [node_at_below, listed] at reached
          exact outermost.uncovered above next below later outer reached

theorem mem_placed_iff (tree : SyntaxTree) :
    ∀ place found, (place, found) ∈ outermostPlaced wanted tree ↔
      OutermostAt wanted tree place found := by
  induction tree using tree_induction with
  | step head children ih =>
      intro place found
      rw [outermostPlaced]
      cases own : wanted head with
      | true =>
          rw [if_pos rfl, List.mem_singleton, Prod.mk.injEq]
          cases place with
          | nil => rw [outermost_at_root_iff, own, and_iff_right rfl, and_iff_left rfl]
          | cons index place => simp [outermost_at_below_iff, own]
      | false =>
          rw [if_neg Bool.false_ne_true, mem_placed_from]
          cases place with
          | nil => simp [outermost_at_root_iff, own]
          | cons index place =>
              rw [outermost_at_below_iff, own, and_iff_right rfl]
              constructor
              · rintro ⟨i, below, child, same, listed, member⟩
                obtain ⟨rfl, rfl⟩ := List.cons.inj same
                rw [Nat.zero_add]
                exact ⟨child, listed, (ih child (List.mem_of_getElem? listed) _ _).1 member⟩
              · rintro ⟨child, listed, outermost⟩
                exact ⟨index, place, child, by rw [Nat.zero_add], listed,
                  (ih child (List.mem_of_getElem? listed) _ _).2 outermost⟩

theorem placed_from_increase {trees : List SyntaxTree} (index : Nat)
    (each : ∀ tree ∈ trees, (outermostPlaced wanted tree).Pairwise fun a b => a.1 < b.1) :
    (outermostPlacedFrom wanted index trees).Pairwise fun a b => a.1 < b.1 := by
  induction trees generalizing index with
  | nil => exact List.Pairwise.nil
  | cons tree rest ih =>
      obtain ⟨first, later⟩ := List.forall_mem_cons.1 each
      rw [outermostPlacedFrom, List.pairwise_append, List.pairwise_map]
      refine ⟨first.imp fun less => List.cons_lt_cons_iff.2 (.inr ⟨rfl, less⟩),
        ih (index + 1) later, ?_⟩
      intro a here b there
      obtain ⟨own, -, rfl⟩ := List.mem_map.1 here
      obtain ⟨i, below, -, beyond, -, -⟩ := mem_placed_from.1 there
      rw [beyond]
      exact List.cons_lt_cons_iff.2 (.inl (by omega))

/-- They are listed in the order of their places. -/
theorem placed_increase (tree : SyntaxTree) :
    (outermostPlaced wanted tree).Pairwise fun a b => a.1 < b.1 := by
  induction tree using tree_induction with
  | step head children ih =>
      rw [outermostPlaced]
      split
      · exact List.pairwise_singleton _ _
      · exact placed_from_increase 0 ih

end Placed

section Reading

variable {wanted : Node → Bool}

theorem outermost_among_sublist {trees : List SyntaxTree}
    (each : ∀ tree ∈ trees, (tree.outermost wanted).Sublist tree.nodes) :
    (outermostAmong wanted trees).Sublist (nodesAmong trees) := by
  induction trees with
  | nil => exact List.Sublist.refl _
  | cons tree rest ih =>
      obtain ⟨first, later⟩ := List.forall_mem_cons.1 each
      exact first.append (ih later)

theorem outermost_sublist (wanted : Node → Bool) (tree : SyntaxTree) :
    (tree.outermost wanted).Sublist tree.nodes := by
  induction tree using tree_induction with
  | step head children ih =>
      rw [outermost, nodes]
      split
      · exact List.singleton_sublist.2 List.mem_cons_self
      · exact (outermost_among_sublist ih).cons head

theorem collect_identifiers_eq (stack : List SyntaxTree) :
    collectIdentifiers stack = outermostAmong Node.isIdentifier stack := by
  induction stack using collectIdentifiers.induct with
  | case1 => rw [collectIdentifiers, outermostAmong]
  | case2 head children rest own ih =>
      rw [collectIdentifiers, if_pos own, outermostAmong, outermost, if_pos own, ih]
      rfl
  | case3 head children rest other ih =>
      rw [collectIdentifiers, if_neg other, outermostAmong, outermost, if_neg other, ih,
        outermost_among_append]

theorem cut_of_fits {source : List Char} {node : Node} (fits : node.FitsIn source) :
    cut source node.start node.stop = some (node.textIn source).toList := by
  obtain ⟨between, covered, after, same, begins, ends⟩ :=
    fits.divides (List.nil_append source).symm (Nat.zero_le _)
  rw [bytes, Nat.zero_add] at begins
  have cutting := cut_between between covered after
  rw [← begins, ← ends, ← same] at cutting
  have before : selectFrom 0 node.covers between = [] := by
    refine (select_from_congr fun offset _ below => ?_).trans (select_from_none 0 between)
    rw [← Bool.not_eq_true, Node.covers_iff]
    omega
  have inside : selectFrom node.start node.covers covered = covered := by
    refine (select_from_congr fun offset above below => ?_).trans
      (select_from_all node.start covered)
    exact Node.covers_iff.2 ⟨above, by omega⟩
  have behind : selectFrom node.stop node.covers after = [] := by
    refine (select_from_congr fun offset above _ => ?_).trans (select_from_none node.stop after)
    rw [← Bool.not_eq_true, Node.covers_iff]
    omega
  have text : select node.covers source = covered := by
    change selectFrom 0 node.covers source = covered
    rw [same, select_from_append, select_from_append, Nat.zero_add, ← begins, ← ends, before,
      inside, behind, List.nil_append, List.append_nil]
  rw [cutting, Node.text_in_eq_select, String.toList_ofList, text]

end Reading

/-- The names of a source are the texts of the outermost identifier nodes, each once, in the order
of their places; a search with a stack finds these nodes. A node that fits in the source is listed
with what stands between its ends, and in a tree whose siblings stand in order none of the nodes
begins before an earlier one. -/
theorem identifiers_in_document_order (source : String) (tree : SyntaxTree) :
    ∃ listed : List (List Nat × Node),
      tree.identifiers source = listed.map (fun entry => entry.2.textIn source.toList) ∧
      (∀ place found, (place, found) ∈ listed ↔ tree.OutermostAt Node.isIdentifier place found) ∧
      (listed.Pairwise fun a b => a.1 < b.1) ∧
      collectIdentifiers [tree] = listed.map Prod.snd ∧
      (∀ entry ∈ listed, entry.2.FitsIn source.toList →
        cut source.toList entry.2.start entry.2.stop = some (entry.2.textIn source.toList).toList) ∧
      (tree.Ordered → listed.Pairwise fun a b => a.2.start ≤ b.2.start) := by
  refine ⟨outermostPlaced Node.isIdentifier tree, ?_, mem_placed_iff tree, placed_increase tree, ?_,
    fun _ _ => cut_of_fits, ?_⟩
  · change (tree.outermost Node.isIdentifier).map (Node.textIn source.toList) = _
    rw [← placed_nodes, List.map_map]
    rfl
  · rw [collect_identifiers_eq, placed_nodes, outermostAmong, outermostAmong, List.append_nil]
  · intro ordered
    have starts := ordered.reading_order.sublist (outermost_sublist Node.isIdentifier tree)
    rw [← placed_nodes, List.pairwise_map] at starts
    exact starts

def methodCall : SyntaxTree :=
  let inner (kind : String) (start stop : Nat) : Node :=
    ⟨kind, true, false, false, false, start, stop⟩
  .node (inner "module" 0 7) [.node (inner "expression_statement" 0 6) [.node (inner "call" 0 6)
    [.node (inner "attribute" 0 3)
     [.node (inner "identifier" 0 1) [], .node (inner "identifier" 2 3) []],
     .node (inner "argument_list" 3 6) [.node (inner "identifier" 4 5) []]]]]

theorem method_call_names_in_order :
    let source := "x.f(x)\n"
    methodCall.Ordered ∧ (∀ node ∈ methodCall.nodes, node.FitsIn source.toList) ∧
      methodCall.identifiers source = ["x", "f", "x"] ∧ ∃ listed : List (List Nat × Node),
        listed.map Prod.snd = collectIdentifiers [methodCall] ∧
          (listed.Pairwise fun a b => a.2.start ≤ b.2.start) ∧ ∀ entry ∈ listed,
            cut source.toList entry.2.start entry.2.stop =
              some (entry.2.textIn source.toList).toList := by
  intro source
  have ordered : methodCall.Ordered := by decide
  have proper : ∀ node ∈ methodCall.nodes, node.start ≤ node.stop := by decide
  have bounded : ∀ node ∈ methodCall.nodes, Boundary source.toList node.start ∧
      Boundary source.toList node.stop := by decide +kernel
  have fits : ∀ node ∈ methodCall.nodes, node.FitsIn source.toList := fun node member =>
    ⟨proper node member, (bounded node member).1, (bounded node member).2⟩
  obtain ⟨listed, -, -, -, collected, texts, starts⟩ :=
    identifiers_in_document_order source methodCall
  refine ⟨ordered, fits, by decide, listed, collected.symm, starts ordered, fun entry member => ?_⟩
  apply texts entry member
  apply fits
  have found : entry.2 ∈ collectIdentifiers [methodCall] := collected ▸ List.mem_map_of_mem member
  rw [collect_identifiers_eq, outermostAmong, outermostAmong, List.append_nil] at found
  exact (mem_nodes_of_mem_outermost entry.2 found).1

end SyntaxTree

end Resemblance
