import Resemblance.CommandLine.Perform
import Resemblance.SyntaxTree.Preorder

/-!
Snapshots: one document with all that a request may look at, which is the files, the parse trees of
their sources by digest, and the time. A tree is the list of its nodes, each a list of its kind, its
marks as one number, its two offsets, and the number of its children.
-/

namespace Resemblance.CommandLine

open Json (required optional)

/-- A node with the number of its children. Its marks are one for named, two for erroneous, four for
missing, and eight for tainted. -/
def nodeOfJson? : Json → Option (Node × Nat)
  | .array [kind, marks, start, stop, children] => do
      let count := Json.toNat? countBound
      let marks ← count marks
      let has := fun (mark : Nat) => marks / mark % 2 == 1
      some
        (⟨← kind.toText?, has 1, has 2, has 4, has 8, ← count start, ← count stop⟩,
          ← count children)
  | _ => none

def treeOfJson? : Json → Option SyntaxTree
  | .array nodes => (nodes.mapM nodeOfJson?).bind SyntaxTree.ofPreorder
  | _ => none

def entriesOfJson? {α : Type} (read : Json → Option α) : Json → Option (List (String × α))
  | .object members =>
      members.mapM fun member => do some (← member.1, ← read member.2)
  | _ => none

def addText? (files : FileTree) (entry : String × String) : Option FileTree :=
  (do (← files.makeDirectories (Path.parent entry.1)).writeText entry.1 entry.2).toOption

def World.ofJson? (json : Json) : Option World := do
  match ← json.slots? [.named "files", .named "trees", .named "now", .named "workers"] with
  | [files, trees, now, workers] =>
      let texts ← required (entriesOfJson? Json.toText?) files
      some
        { grammar := .ofTrees (← required (entriesOfJson? treeOfJson?) trees)
          now := ← Timestamp.read (← required Json.toText? now)
          files := ← texts.foldlM addText? .empty
          defaults :=
            { workers :=
                (← optional (Json.toNat? countBound) workers).getD ({} : Config).workers } }
  | _ => none

end Resemblance.CommandLine
