import Mathlib.Data.List.TFAE
import Mathlib.Tactic.TFAE
import Resemblance.Proofs.FaultText
import Resemblance.Proofs.SyntaxTree
import Resemblance.Shape.Report

/-!
The search for the first fault passes over trees without taint and works on a stack. In a
well-formed tree it finds what reading all nodes would find, and every gate on a source describes
that same node.
-/

namespace Resemblance

namespace SyntaxTree

theorem find_fault_none {tree : SyntaxTree} (marked : tree.Marked)
    (clear : tree.head.tainted = false) : tree.nodes.find? Node.isFault = none := by
  rw [List.find?_eq_none]
  intro found member faulty
  have tainted := marked.tainted_iff.2 ⟨found, member, faulty⟩
  rw [clear] at tainted
  cases tainted

/-- On a stack of marked trees the search finds the first fault of all their nodes. The induction is
on the steps of the search: the trees on the stack stay marked, and together they hold the nodes
that are still to be read, but for those below trees without taint. -/
theorem search_fault_eq_find (stack : List SyntaxTree) (marked : ∀ tree ∈ stack, tree.Marked) :
    searchFault stack = (nodesAmong stack).find? Node.isFault := by
  induction stack using searchFault.induct with
  | case1 => simp [searchFault, nodesAmong]
  | case2 head children rest fault =>
      simp [searchFault, nodesAmong, nodes, fault]
  | case3 head children rest sound tainted ih =>
      have here := marked (node head children) (by simp)
      have pushed : ∀ tree ∈ children ++ rest, tree.Marked := by
        intro tree member
        rcases List.mem_append.1 member with child | waiting
        · exact here.of_child tree child
        · exact marked tree (by simp [waiting])
      rw [searchFault, if_neg sound, if_pos tainted, ih pushed, nodes_among_append]
      simp [nodesAmong, nodes, sound]
  | case4 head children rest sound clear ih =>
      have here := marked (node head children) (by simp)
      have passed := find_fault_none here (by simpa [SyntaxTree.head] using clear)
      rw [searchFault, if_neg sound, if_neg clear,
        ih (fun tree waiting => marked tree (by simp [waiting]))]
      simp only [nodesAmong, List.find?_append, passed, Option.none_or]

theorem search_fault_root {tree : SyntaxTree} (marked : tree.Marked) :
    searchFault [tree] = tree.nodes.find? Node.isFault := by
  rw [search_fault_eq_find [tree] (by simpa using marked)]
  simp [nodesAmong]

theorem search_fault_succeeds {tree : SyntaxTree} (marked : tree.Marked)
    (tainted : tree.head.tainted = true) : ∃ fault, searchFault [tree] = some fault := by
  obtain ⟨found, member, faulty⟩ := marked.tainted_iff.1 tainted
  rw [search_fault_root marked, ← Option.isSome_iff_exists, List.find?_isSome]
  exact ⟨found, member, faulty⟩

theorem first_fault_eq_find {tree : SyntaxTree} (marked : tree.Marked) :
    tree.firstFault = tree.nodes.find? Node.isFault := by
  cases tainted : tree.head.tainted with
  | true =>
      obtain ⟨fault, found⟩ := search_fault_succeeds marked tainted
      rw [firstFault, if_pos tainted, found, Option.getD_some, ← found, search_fault_root marked]
  | false =>
      rw [firstFault, if_neg (by simp [tainted]), find_fault_none marked tainted]

theorem find_fault_start_le {tree : SyntaxTree} (ordered : tree.Ordered) {fault : Node}
    (first : tree.nodes.find? Node.isFault = some fault) :
    ∀ found ∈ tree.nodes, found.isFault = true → fault.start ≤ found.start := by
  obtain ⟨-, before, after, split, sound⟩ := List.find?_eq_some_iff_append.1 first
  intro found member faulty
  have sorted := ordered.reading_order
  rw [split] at member sorted
  rcases List.mem_append.1 member with earlier | later
  · have contradiction := sound found earlier
    simp [faulty] at contradiction
  · rcases List.mem_cons.1 later with rfl | behind
    · exact Nat.le_refl _
    · exact (List.pairwise_cons.1 (List.pairwise_append.1 sorted).2.1).1 found behind

end SyntaxTree

/-- Every gate lets a source pass, with its tree. -/
structure Passed (grammar : Grammar) (source : String) : Prop where
  clean : grammar.clean source = .ok (grammar source)
  parsed : grammar.checkParsed source = (.valid, some (grammar source))
  check : grammar.check source = .valid
  report : (ShapeReport.ofSource grammar source).fault = none

/-- Every gate stops a source for the same fault, with a text that says where the fault is and what
is missing there. -/
structure Stopped (grammar : Grammar) (source : String) (fault : Fault) : Prop where
  words : fault.describe =
    (if fault.missing then "missing " ++ fault.kind else "syntax error") ++
      " at line " ++ toString fault.place.line ++ ", column " ++ toString fault.place.column
  names : ∀ other : Fault, fault.describe = other.describe ↔
    fault.place = other.place ∧ fault.missing = other.missing ∧
      (fault.missing = true → fault.kind = other.kind)
  clean : grammar.clean source = .error (.parse languageName fault.describe (some fault.place))
  parsed : grammar.checkParsed source = (.invalid fault.describe, none)
  check : grammar.check source = .invalid fault.describe
  report : ShapeReport.ofSource grammar source = .failed (.faulty fault.describe)

theorem passed_of_none {grammar : Grammar} {source : String}
    (sound : Fault.first? source (grammar source) = none) : Passed grammar source where
  clean := by simp [Grammar.clean, SyntaxTree.clean, sound]
  parsed := by simp [Grammar.checkParsed, Validity.ofTree, sound, Validity.isValid]
  check := by simp [Grammar.check, Grammar.checkParsed, Validity.ofTree, sound, Validity.isValid]
  report := by simp [ShapeReport.ofSource, sound]

theorem stopped_of_some {grammar : Grammar} {source : String} {fault : Fault}
    (found : Fault.first? source (grammar source) = some fault) : Stopped grammar source fault where
  words := fault.describe_words
  names _ := Fault.describe_eq_iff
  clean := by simp [Grammar.clean, SyntaxTree.clean, found, Fault.toFailure]
  parsed := by simp [Grammar.checkParsed, Validity.ofTree, found, Validity.isValid]
  check := by simp [Grammar.check, Grammar.checkParsed, Validity.ofTree, found, Validity.isValid]
  report := by simp [ShapeReport.ofSource, found]

theorem clean_ok_iff (grammar : Grammar) (source : String) :
    (∃ tree, grammar.clean source = .ok tree) ↔
      Fault.first? source (grammar source) = none := by
  cases first : Fault.first? source (grammar source) with
  | none => simp [(passed_of_none first).clean]
  | some fault => simp [(stopped_of_some first).clean]

theorem check_valid_iff (grammar : Grammar) (source : String) :
    grammar.check source = .valid ↔ Fault.first? source (grammar source) = none := by
  cases first : Fault.first? source (grammar source) with
  | none => simp [(passed_of_none first).check]
  | some fault => simp [(stopped_of_some first).check]

theorem parsed_some_iff (grammar : Grammar) (source : String) :
    (∃ tree, (grammar.checkParsed source).2 = some tree) ↔
      Fault.first? source (grammar source) = none := by
  cases first : Fault.first? source (grammar source) with
  | none => simp [(passed_of_none first).parsed]
  | some fault => simp [(stopped_of_some first).parsed]

theorem report_sound_iff (grammar : Grammar) (source : String) :
    (ShapeReport.ofSource grammar source).fault = none ↔
      Fault.first? source (grammar source) = none := by
  cases first : Fault.first? source (grammar source) with
  | none => simp [(passed_of_none first).report]
  | some fault => simp [(stopped_of_some first).report, ShapeReport.failed]

theorem gates_agree (grammar : Grammar) (source : String) :
    [∃ tree, grammar.clean source = .ok tree, grammar.check source = .valid,
      ∃ tree, (grammar.checkParsed source).2 = some tree,
      (ShapeReport.ofSource grammar source).fault = none,
      Fault.first? source (grammar source) = none].TFAE := by
  tfae_have 1 ↔ 5 := clean_ok_iff grammar source
  tfae_have 2 ↔ 5 := check_valid_iff grammar source
  tfae_have 3 ↔ 5 := parsed_some_iff grammar source
  tfae_have 4 ↔ 5 := report_sound_iff grammar source
  tfae_finish

/-- In a well-formed tree the search for the first fault agrees with reading all nodes: it finds
nothing exactly when there is no fault, otherwise the fault that is read first, which begins first;
and it never has to blame the root. All gates on a source agree with it, and describe that fault
when they stop the source; the description tells where in the source the fault begins, and the kind
of what is missing. -/
theorem first_fault_decides_gates (grammar : Grammar) (source : String) :
    ((grammar source).WellFormed →
      (Fault.first? source (grammar source) =
        ((grammar source).nodes.find? Node.isFault).map (Fault.ofNode source)) ∧
      (Fault.first? source (grammar source) = none ↔
        ∀ found ∈ (grammar source).nodes, found.erroneous = false ∧ found.missing = false) ∧
      (∀ fault, (grammar source).nodes.find? Node.isFault = some fault →
        ∀ found ∈ (grammar source).nodes, found.isFault = true → fault.start ≤ found.start) ∧
      ((grammar source).head.tainted = true →
        ∃ fault, SyntaxTree.searchFault [grammar source] = some fault)) ∧
    [∃ tree, grammar.clean source = .ok tree, grammar.check source = .valid,
      ∃ tree, (grammar.checkParsed source).2 = some tree,
      (ShapeReport.ofSource grammar source).fault = none,
      Fault.first? source (grammar source) = none].TFAE ∧
    (Fault.first? source (grammar source) = none → Passed grammar source) ∧
    (∀ fault, Fault.first? source (grammar source) = some fault →
      Stopped grammar source fault) ∧
    (∀ node other : Node, node.start ≤ source.utf8ByteSize → other.start ≤ source.utf8ByteSize →
      ((Fault.ofNode source node).describe = (Fault.ofNode source other).describe ↔
        node.start = other.start ∧ node.missing = other.missing ∧
          (node.missing = true → node.kind = other.kind))) := by
  refine ⟨?_, gates_agree grammar source, passed_of_none, fun fault => stopped_of_some,
    fun _ _ => Fault.describe_node_iff⟩
  intro formed
  have read : Fault.first? source (grammar source) =
      ((grammar source).nodes.find? Node.isFault).map (Fault.ofNode source) := by
    rw [Fault.first?, SyntaxTree.first_fault_eq_find formed.marked]
  refine ⟨read, ?_, ?_, SyntaxTree.search_fault_succeeds formed.marked⟩
  · rw [read, Option.map_eq_none_iff, List.find?_eq_none]
    simp [Node.isFault]
  · exact fun fault first => SyntaxTree.find_fault_start_le formed.ordered first

/-- The parenthesis that the second line of a source lacks, behind a first line without faults. -/
def lackingParenthesis : Node := ⟨")", false, false, true, true, 12, 12⟩

def lackingTree : SyntaxTree :=
  .node ⟨"module", true, false, false, true, 0, 14⟩
    [.node ⟨"expression_statement", true, false, false, false, 0, 5⟩
      [.node ⟨"assignment", true, false, false, false, 0, 5⟩
        [.node ⟨"identifier", true, false, false, false, 0, 1⟩ [],
         .node ⟨"integer", true, false, false, false, 4, 5⟩ []]],
     .node ⟨"function_definition", true, false, false, true, 6, 13⟩
      [.node ⟨"identifier", true, false, false, false, 10, 11⟩ [],
       .node ⟨"parameters", true, false, false, true, 11, 12⟩ [.node lackingParenthesis []],
       .node ⟨"block", true, false, false, false, 13, 13⟩ []]]

theorem lacking_parenthesis_stops_gates :
    lackingTree.WellFormed ∧ lackingTree.nodes.find? Node.isFault = some lackingParenthesis ∧
      Stopped (fun _ => lackingTree) "x = 1\ndef f(:\n" ⟨⟨2, 7⟩, true, ")"⟩ ∧
      Grammar.check (fun _ => lackingTree) "x = 1\ndef f(:\n" =
        .invalid "missing ) at line 2, column 7" := by
  have formed : lackingTree.WellFormed := by decide
  have first : lackingTree.nodes.find? Node.isFault = some lackingParenthesis := by decide
  have place : Fault.ofNode "x = 1\ndef f(:\n" lackingParenthesis = ⟨⟨2, 7⟩, true, ")"⟩ := by
    decide +kernel
  obtain ⟨agrees, -, -, stops, -⟩ :=
    first_fault_decides_gates (fun _ => lackingTree) "x = 1\ndef f(:\n"
  have found := (agrees formed).1
  rw [first, Option.map_some, place] at found
  have stopped := stops _ found
  refine ⟨formed, first, stopped, ?_⟩
  rw [stopped.check, stopped.words]
  rfl

end Resemblance
