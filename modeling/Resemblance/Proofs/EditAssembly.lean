import Resemblance.Proofs.EditBounds

/-!
The assembly of an edit tree as it is carried out: from the last place of a shape to the first, each
node takes the trees of its children out of their cells and leaves the cells empty, and the weights
are summed on the way. In a shape every place is the child of one node at most, so that a cell is
still full when the parent comes to it. The tree in the first cell is therefore the one that is made
without emptying any cell, with all nodes of the shape in it and none of them twice.
-/

namespace Resemblance

namespace Shape

variable {β : Type}

/-- Takes what the cells at the places hold and leaves them empty, one after the other. There is no
result where a place is beyond the cells. -/
def takeHeld : List Nat → Array (Option β) → Option (List β × Array (Option β))
  | [], cells => some ([], cells)
  | place :: rest, cells => do
      let cell ← cells[place]?
      let (taken, left) ← takeHeld rest (cells.setIfInBounds place none)
      some (cell.toList ++ taken, left)

/-- Different places within the cells lose what they hold, and nothing else changes. -/
theorem take_held_eq {places : List Nat} {cells : Array (Option β)} (once : places.Nodup)
    (inside : ∀ place ∈ places, place < cells.size) :
    ∃ left, takeHeld places cells = some (places.filterMap fun place => cells[place]?.join, left) ∧
      left.size = cells.size ∧ ∀ index, index ∉ places → left[index]? = cells[index]? := by
  induction places generalizing cells with
  | nil => exact ⟨cells, rfl, rfl, fun _ _ => rfl⟩
  | cons place rest ih =>
      obtain ⟨apart, later⟩ := List.nodup_cons.1 once
      have elsewhere : ∀ index, index ≠ place →
          (cells.setIfInBounds place none)[index]? = cells[index]? := fun index other =>
        Array.getElem?_setIfInBounds_ne (Ne.symm other)
      have remaining : ∀ index ∈ rest, index < (cells.setIfInBounds place none).size := by
        intro index member
        rw [Array.size_setIfInBounds]
        exact inside index (List.mem_cons_of_mem _ member)
      obtain ⟨left, found, size, kept⟩ := ih later remaining
      have same : (rest.filterMap fun index => (cells.setIfInBounds place none)[index]?.join) =
          rest.filterMap fun index => cells[index]?.join := by
        apply List.filterMap_congr
        intro index member
        rw [elsewhere index (ne_of_mem_of_not_mem member apart)]
      obtain ⟨cell, full⟩ : ∃ cell, cells[place]? = some cell :=
        ⟨_, Array.getElem?_eq_getElem (inside place List.mem_cons_self)⟩
      refine ⟨left, ?_, by rw [size, Array.size_setIfInBounds], ?_⟩
      · rw [takeHeld, full, found, same, List.filterMap_cons, full]
        cases cell <;> rfl
      · intro index absent
        rw [List.mem_cons, not_or] at absent
        rw [kept index absent.2, elsewhere index absent.1]

/-- No place is the child of two nodes, or of one node twice, and the first place is the child of
none. -/
structure SoleParents (nodes : Array ShapeNode) : Prop where
  once : ∀ {place : Nat} {node : ShapeNode}, nodes[place]? = some node → node.children.toList.Nodup
  sole : ∀ {place place' child : Nat} {node node' : ShapeNode}, nodes[place]? = some node →
    nodes[place']? = some node' → child ∈ node.children.toList → child ∈ node'.children.toList →
      place = place'
  first : ∀ {place : Nat} {node : ShapeNode}, nodes[place]? = some node → 0 ∉ node.children.toList
  inside : ∀ {place : Nat} {node : ShapeNode}, nodes[place]? = some node →
    ∀ child ∈ node.children.toList, child < nodes.size

theorem Represents.sole_parents {shape : Shape} {tree : ShapeTree}
    (represents : shape.Represents tree) :
    SoleParents shape.nodes := by
  have listed : ∀ {place : Nat} {node : ShapeNode}, shape.nodes[place]? = some node →
      ∀ child ∈ node.children.toList, child ∈ List.range' 1 (shape.size - 1) := by
    intro place node found child member
    rw [← represents.once.mem_iff, List.mem_flatMap]
    exact ⟨node, Array.mem_toList_iff.2 (Array.mem_of_getElem? found), member⟩
  have different := represents.once.nodup_iff.2 List.nodup_range'
  rw [List.nodup_flatMap] at different
  obtain ⟨single, disjoint⟩ := different
  have ordered : ∀ {place place' child : Nat} {node node' : ShapeNode},
      shape.nodes[place]? = some node →
      shape.nodes[place']? = some node' → child ∈ node.children.toList →
        child ∈ node'.children.toList → ¬place < place' := by
    intro place place' child node node' found found' member member' less
    obtain ⟨bound, rfl⟩ := Array.getElem?_eq_some_iff.1 found
    obtain ⟨bound', rfl⟩ := Array.getElem?_eq_some_iff.1 found'
    exact List.pairwise_iff_getElem.1 disjoint place place' bound bound' less member member'
  refine ⟨?_, ?_, ?_, ?_⟩
  · intro place node found
    exact single node (Array.mem_toList_iff.2 (Array.mem_of_getElem? found))
  · intro place place' child node node' found found' member member'
    have before := ordered found found' member member'
    have after := ordered found' found member' member
    omega
  · intro place node found member
    have := List.mem_range'_1.1 (listed found 0 member)
    omega
  · intro place node found child member
    have range := List.mem_range'_1.1 (listed found child member)
    rw [size] at range
    omega

end Shape

namespace Edit

variable {H : Type}

/-- An edit tree under assembly: a cell for each place, and the weight of the nodes so far. -/
structure Assembly (H : Type) where
  cells : Array (Option (EditTree H))
  weight : Nat

/-- Fills the cell of a node with its tree, made of the trees taken out of the cells of its
children. -/
def Assembly.enter (hasher : Hasher H) (weigh : String → Nat) (place : Nat) (node : ShapeNode)
    (assembly : Assembly H) : Option (Assembly H) := do
  let (children, left) ← Shape.takeHeld node.children.toList assembly.cells
  let tree := EditTree.node (hasher.ofKind node.kind) (weigh node.kind) children
  some ⟨left.setIfInBounds place (some tree), assembly.weight + weigh node.kind⟩

def assembleFrom (hasher : Hasher H) (weigh : String → Nat) (nodes : Array ShapeNode) :
    Nat → Assembly H → Option (Assembly H)
  | 0, assembly => some assembly
  | place + 1, assembly => do
      let node ← nodes[place]?
      let entered ← assembly.enter hasher weigh place node
      assembleFrom hasher weigh nodes place entered

/-- The edit tree of a shape by moving every subtree into its parent. There is no result where a
place is not there, and no tree where the first cell is empty at the end. -/
def assemble (hasher : Hasher H) (weigh : String → Nat) (shape : Shape) :
    Option (Option (WeighedTree H)) := do
  let built ← assembleFrom hasher weigh shape.nodes shape.size ⟨Array.replicate shape.size none, 0⟩
  some (built.cells[0]?.join.map fun root => ⟨root, built.weight⟩)

/-- An assembly that has come down to a place agrees with cells that are never emptied, except at
the children of the nodes that were entered. -/
structure Assembly.Follows (nodes : Array ShapeNode) (place : Nat) (assembly : Assembly H)
    (cells : Array (Option (EditTree H))) : Prop where
  size : assembly.cells.size = nodes.size
  size' : cells.size = nodes.size
  untaken : ∀ index, (∀ above node, place ≤ above → nodes[above]? = some node →
    index ∉ node.children.toList) → assembly.cells[index]? = cells[index]?

section Run

variable {hasher : Hasher H} {weigh : String → Nat} {nodes : Array ShapeNode}

/-- What is made of a node in cells that are never emptied. -/
def combined (hasher : Hasher H) (weigh : String → Nat) (kind : String) (_ : Option String)
    (children : List (EditTree H)) : EditTree H :=
  .node (hasher.ofKind kind) (weigh kind) children

/-- The children of a node that is entered are no children of the nodes entered before, so that
their cells are still full. -/
theorem Assembly.Follows.enter (hasher : Hasher H) (weigh : String → Nat)
    (parents : Shape.SoleParents nodes) {place : Nat} {node : ShapeNode}
    {assembly : Assembly H} {cells : Array (Option (EditTree H))}
    (follows : assembly.Follows nodes (place + 1) cells) (found : nodes[place]? = some node) :
    ∃ entered, assembly.enter hasher weigh place node = some entered ∧
      entered.weight = assembly.weight + weigh node.kind ∧
      entered.Follows nodes place (cells.setIfInBounds place
        (some (combined hasher weigh node.kind node.text (Shape.held cells node.children)))) := by
  have full : ∀ child ∈ node.children.toList, assembly.cells[child]? = cells[child]? := by
    intro child member
    apply follows.untaken
    intro above other before found' member'
    have same := parents.sole found found' member member'
    omega
  have inside : ∀ child ∈ node.children.toList, child < assembly.cells.size := by
    rw [follows.size]
    exact parents.inside found
  obtain ⟨left, taken, size, kept⟩ := Shape.take_held_eq (parents.once found) inside
  have children : (node.children.toList.filterMap fun child => assembly.cells[child]?.join) =
      Shape.held cells node.children := by
    apply List.filterMap_congr
    intro child member
    rw [full child member]
  rw [children] at taken
  refine ⟨_, by rw [Assembly.enter, taken]; rfl, rfl, ?_, ?_, ?_⟩
  · rw [Array.size_setIfInBounds, size, follows.size]
  · rw [Array.size_setIfInBounds, follows.size']
  · intro index free
    have before : left[index]? = cells[index]? := by
      rw [kept index (free place node (Nat.le_refl place) found)]
      exact follows.untaken index fun above other later =>
        free above other (Nat.le_of_succ_le later)
    have sizes : left.size = cells.size := by rw [size, follows.size, follows.size']
    rw [Array.getElem?_setIfInBounds, Array.getElem?_setIfInBounds, before, sizes]
    rfl

/-- The whole run: it comes to the first place, agrees there, and has added the weight of every
node. -/
theorem Assembly.Follows.run (hasher : Hasher H) (weigh : String → Nat)
    (parents : Shape.SoleParents nodes)
    {place : Nat} (reached : place ≤ nodes.size) {assembly : Assembly H}
    {cells : Array (Option (EditTree H))}
    (follows : assembly.Follows nodes place cells) :
    ∃ built, assembleFrom hasher weigh nodes place assembly = some built ∧
      built.weight = assembly.weight +
        ((nodes.toList.take place).map fun node => weigh node.kind).sum ∧
      built.Follows nodes 0 (Shape.fill (combined hasher weigh) nodes place cells) := by
  induction place generalizing assembly cells with
  | zero => exact ⟨assembly, rfl, rfl, follows⟩
  | succ place ih =>
      have found : nodes[place]? = some nodes[place] := Array.getElem?_eq_getElem reached
      obtain ⟨entered, step, weight, next⟩ := follows.enter hasher weigh parents found
      obtain ⟨built, rest, total, last⟩ := ih (Nat.le_of_succ_le reached) next
      refine ⟨built, ?_, ?_, ?_⟩
      · rw [assembleFrom, found, Option.bind_eq_bind, Option.bind_some, step]
        exact rest
      · have more : nodes.toList.take (place + 1) = nodes.toList.take place ++ [nodes[place]] := by
          rw [List.take_add_one, Array.getElem?_toList, found]
          rfl
        rw [total, weight, more, List.map_append, List.sum_append, List.map_singleton,
          List.sum_singleton]
        omega
      · rw [Shape.fill, found]
        exact last

theorem weights_of_nodes (weigh : String → Nat) (nodes : Array ShapeNode) :
    nodes.foldl (fun total node => total + weigh node.kind) 0 =
      (nodes.toList.map fun node => weigh node.kind).sum := by
  rw [List.sum_eq_foldl, List.foldl_map, Array.foldl_toList]

/-- Moving the subtrees makes the edit tree of the shape. -/
theorem assemble_eq_of_shape {shape : Shape} (parents : Shape.SoleParents shape.nodes) :
    assemble hasher weigh shape = some (ofShape hasher weigh shape) := by
  have start : (⟨Array.replicate shape.size none, 0⟩ : Assembly H).Follows shape.nodes shape.size
      (Array.replicate shape.size none) :=
    ⟨Array.size_replicate, Array.size_replicate, fun _ _ => rfl⟩
  obtain ⟨built, run, total, last⟩ :=
    start.run hasher weigh parents (Nat.le_refl shape.size)
  have root := last.untaken 0 fun _ _ _ found => parents.first found
  have weight : built.weight = shape.nodes.foldl (fun total node => total + weigh node.kind) 0 := by
    rw [total, Nat.zero_add, weights_of_nodes, Shape.size, ← Array.length_toList, List.take_length]
  rw [assemble, run]
  change some (Option.map _ _) = _
  rw [root, weight]
  rfl

end Run

end Edit

namespace EditTree

variable {H : Type}

mutual

/-- The tree copies the nodes of a table from a place on: its node has the digest and the weight of
the kind that is there, and its subtrees copy the nodes at the places of the children, in their
order. -/
def CopiesAt (hasher : Hasher H) (weigh : String → Nat) (nodes : List ShapeNode) (place : Nat) :
    EditTree H → Prop
  | node kind weight children =>
      ∃ entry, nodes[place]? = some entry ∧ kind = hasher.ofKind entry.kind ∧
        weight = weigh entry.kind ∧ CopyAt hasher weigh nodes entry.children.toList children

def CopyAt (hasher : Hasher H) (weigh : String → Nat) (nodes : List ShapeNode) :
    List Nat → List (EditTree H) → Prop
  | places, [] => places = []
  | places, tree :: rest =>
      ∃ place others, places = place :: others ∧ CopiesAt hasher weigh nodes place tree ∧
        CopyAt hasher weigh nodes others rest

end

end EditTree

namespace ShapeTree

variable {H : Type} {hasher : Hasher H} {weigh : String → Nat} {nodes : List ShapeNode}

theorem stand_copy {trees : List ShapeTree} {places : List Nat} (stand : StandAt nodes places trees)
    (copies : ∀ tree ∈ trees, ∀ place, tree.StandsAt nodes place →
      (tree.editTree hasher weigh).CopiesAt hasher weigh nodes place) :
    EditTree.CopyAt hasher weigh nodes places (trees.map (editTree hasher weigh)) := by
  induction trees generalizing places with
  | nil => exact stand
  | cons tree rest ih =>
      obtain ⟨place, others, rfl, first, later⟩ := stand
      exact ⟨place, others, rfl, copies tree List.mem_cons_self place first,
        ih later fun other member => copies other (List.mem_cons_of_mem _ member)⟩

theorem stands_copies {tree : ShapeTree} {place : Nat} (stands : tree.StandsAt nodes place) :
    (tree.editTree hasher weigh).CopiesAt hasher weigh nodes place := by
  induction tree using tree_induction generalizing place with
  | step kind text children ih =>
      obtain ⟨entry, found, rfl, -, below⟩ := stands
      rw [edit_tree_node]
      exact ⟨entry, found, rfl, rfl, stand_copy below fun child member _ => ih child member⟩

theorem edit_trees_weight {trees : List ShapeTree}
    (first : ∀ tree ∈ trees, (tree.editTree hasher weigh).weight = (tree.kinds.map weigh).sum) :
    EditTree.weights (trees.map (editTree hasher weigh)) =
      ((trees.flatMap kinds).map weigh).sum := by
  induction trees with
  | nil => rfl
  | cons tree rest ih =>
      rw [List.map_cons, EditTree.weights, first tree List.mem_cons_self,
        ih fun other member => first other (List.mem_cons_of_mem _ member), List.flatMap_cons,
        List.map_append, List.sum_append]

theorem edit_tree_weight (tree : ShapeTree) :
    (tree.editTree hasher weigh).weight = (tree.kinds.map weigh).sum := by
  induction tree using tree_induction with
  | step kind text children ih =>
      rw [edit_tree_node, EditTree.weight, edit_trees_weight ih, kinds_node, List.map_cons,
        List.sum_cons]

end ShapeTree

namespace Edit

variable {H : Type}

/-- All of a shape is in an edit tree: node for node, with the kinds in the order of the places, and
with the weight that the recursion on the tree finds. -/
structure Whole (hasher : Hasher H) (weigh : String → Nat) (shape : Shape) (built : WeighedTree H) :
    Prop where
  copies : built.root.CopiesAt hasher weigh shape.nodes.toList 0
  kinds : built.root.kinds = shape.nodes.toList.map fun node => hasher.ofKind node.kind
  weight : built.weight = built.root.weight

theorem of_shape_weighed (hasher : Hasher H) (weigh : String → Nat) (source : List Char)
    (tree : SyntaxTree) : ofShape hasher weigh (Shape.ofTree source tree) =
      some ⟨(ShapeTree.ofTree source tree).editTree hasher weigh,
        ((ShapeTree.ofTree source tree).editTree hasher weigh).weight⟩ := by
  rw [of_shape_eq, ShapeTree.edit_tree_weight, List.sum_eq_foldl, List.foldl_map]

theorem of_tree_whole (hasher : Hasher H) (weigh : String → Nat) (source : List Char)
    (tree : SyntaxTree) :
    Whole hasher weigh (Shape.ofTree source tree)
      ⟨(ShapeTree.ofTree source tree).editTree hasher weigh,
        ((ShapeTree.ofTree source tree).editTree hasher weigh).weight⟩ where
  copies := ShapeTree.stands_copies (Shape.of_tree_represents source tree).stands
  kinds := by
    rw [ShapeTree.edit_tree_kinds, ← (Shape.of_tree_represents source tree).kinds_eq, List.map_map]
    rfl
  weight := rfl

end Edit

/-- A shape as the library makes them: of a parse tree, or without nodes. -/
def Shape.Laid (shape : Shape) : Prop :=
  shape.nodes = #[] ∨ ∃ source tree, shape = Shape.ofTree source tree

theorem Shape.Laid.sole_parents {shape : Shape} (laid : shape.Laid) : SoleParents shape.nodes := by
  rcases laid with empty | ⟨source, tree, rfl⟩
  · rw [empty]
    have absent : ∀ {place : Nat} {node : ShapeNode},
        (#[] : Array ShapeNode)[place]? ≠ some node := by
      simp
    exact ⟨fun found => absurd found absent, fun found => absurd found absent,
      fun found => absurd found absent, fun found => absurd found absent⟩
  · exact (Shape.of_tree_represents source tree).sole_parents

/-- The assembly of a shape comes to an end with the edit tree of the library, which has all of the
shape in it; only a shape without nodes has none. -/
structure Edit.AssemblesWhole {H : Type} (hasher : Hasher H) (weigh : String → Nat)
    (shape : Shape) : Prop where
  moved : assemble hasher weigh shape = some (ofShape hasher weigh shape)
  absent_iff : ofShape hasher weigh shape = none ↔ shape.nodes = #[]
  whole : ∀ built, ofShape hasher weigh shape = some built → Whole hasher weigh shape built

theorem Shape.Laid.assembles_whole {H : Type} {shape : Shape} (laid : shape.Laid)
    (hasher : Hasher H)
    (weigh : String → Nat) : Edit.AssemblesWhole hasher weigh shape := by
  refine ⟨Edit.assemble_eq_of_shape laid.sole_parents, ?_, ?_⟩
  · rcases laid with empty | ⟨source, tree, rfl⟩
    · obtain ⟨nodes⟩ := shape
      obtain rfl : nodes = #[] := empty
      exact ⟨fun _ => rfl, fun _ => rfl⟩
    · rw [Edit.of_shape_weighed]
      constructor
      · intro absent
        cases absent
      · intro empty
        have some := Shape.of_tree_size source tree
        have positive := (ShapeTree.ofTree source tree).size_pos
        rw [Shape.size, empty] at some
        exact absurd some (Nat.ne_of_lt positive)
  · intro built found
    rcases laid with empty | ⟨source, tree, rfl⟩
    · obtain ⟨nodes⟩ := shape
      obtain rfl : nodes = #[] := empty
      cases found
    · rw [Edit.of_shape_weighed] at found
      obtain rfl := Option.some.inj found
      exact Edit.of_tree_whole hasher weigh source tree

end Resemblance
