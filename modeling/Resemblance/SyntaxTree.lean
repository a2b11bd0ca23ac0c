import Resemblance.Text.Offset

/-!
Parse trees as a tolerant grammar delivers them: every source has one, and faults of the source
appear as error nodes, or as nodes that were missing and had to be supplied.
-/

namespace Resemblance

/-- What a parse tree says about one of its nodes. Offsets are byte offsets into the source. -/
structure Node where
  kind : String
  named : Bool
  /-- Stands for text that fits nowhere. -/
  erroneous : Bool
  /-- Was supplied although the source lacks it. -/
  missing : Bool
  /-- Is, or has below it, an erroneous or missing node. -/
  tainted : Bool
  start : Nat
  stop : Nat
  deriving DecidableEq, Repr

/-- Whether the source is at fault at this very node. -/
def Node.isFault (node : Node) : Bool :=
  node.erroneous || node.missing

def Node.isComment (node : Node) : Bool :=
  node.kind == "comment"

def Node.textIn (source : List Char) (node : Node) : String :=
  String.ofList (Text.slice node.start node.stop source)

/-- A parse tree: a node and its subtrees in source order. -/
inductive SyntaxTree where
  | node (head : Node) (children : List SyntaxTree)

namespace SyntaxTree

def head : SyntaxTree → Node
  | node head _ => head

def children : SyntaxTree → List SyntaxTree
  | node _ children => children

mutual

def size : SyntaxTree → Nat
  | node _ children => 1 + sizes children

def sizes : List SyntaxTree → Nat
  | [] => 0
  | tree :: rest => size tree + sizes rest

end

theorem sizes_append (trees others : List SyntaxTree) :
    sizes (trees ++ others) = sizes trees + sizes others := by
  induction trees with
  | nil => simp [sizes]
  | cons tree rest ih =>
      simp only [List.cons_append, sizes, ih]
      omega

/-- The first fault of the trees on a stack, the top one first. The children of a tainted node take
its place on the stack; what stands below any other node is passed over. -/
def searchFault : List SyntaxTree → Option Node
  | [] => none
  | node head children :: rest =>
      if head.isFault then some head
      else if head.tainted then searchFault (children ++ rest)
      else searchFault rest
termination_by stack => sizes stack
decreasing_by all_goals simp only [sizes, size, sizes_append]; omega

/-- The node at which a source is first at fault; a tainted tree without a fault blames its root. -/
def firstFault (tree : SyntaxTree) : Option Node :=
  if tree.head.tainted then some ((searchFault [tree]).getD tree.head) else none

def isKept (tree : SyntaxTree) : Bool :=
  tree.head.named && !tree.head.isComment

def kept (tree : SyntaxTree) : List SyntaxTree :=
  tree.children.filter isKept

theorem sizes_filter_le (keep : SyntaxTree → Bool) (trees : List SyntaxTree) :
    sizes (trees.filter keep) ≤ sizes trees := by
  induction trees with
  | nil => simp
  | cons tree rest ih =>
      by_cases keeps : keep tree
      · simpa [List.filter_cons, keeps, sizes] using ih
      · simp only [List.filter_cons, keeps, sizes]
        exact Nat.le_trans ih (Nat.le_add_left _ _)

theorem sizes_kept_lt (tree : SyntaxTree) : sizes tree.kept < size tree := by
  cases tree with
  | node head children =>
      have bounded := sizes_filter_le isKept children
      simp only [kept, size, SyntaxTree.children]
      omega

mutual

def outermost (wanted : Node → Bool) : SyntaxTree → List Node
  | node head children =>
      if wanted head then [head] else outermostAmong wanted children

def outermostAmong (wanted : Node → Bool) : List SyntaxTree → List Node
  | [] => []
  | tree :: rest => outermost wanted tree ++ outermostAmong wanted rest

end

/-- The names a source mentions, repeated ones included, in source order. -/
def identifiers (source : String) (tree : SyntaxTree) : List String :=
  (tree.outermost fun node => node.kind == "identifier").map (Node.textIn source.toList)

def withoutComments (source : String) (tree : SyntaxTree) : List Char :=
  let comments := tree.outermost Node.isComment
  Text.select
    (fun offset => !comments.any fun comment => comment.start ≤ offset && offset < comment.stop)
    source.toList

end SyntaxTree
end Resemblance
