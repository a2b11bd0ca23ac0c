import Resemblance.Path
import Resemblance.Tally

/-!
Trees of files. A tree holds files, links to other paths, and directories, whose entries stand in
the order of their names. Places are lists of names from the top; reading, writing and listing are
functions of a tree.
-/

namespace Resemblance

inductive FileFault where
  | notFound
  | notDirectory
  | isDirectory
  | alreadyExists
  | nameTooLong
  | tooManyLinks
  /-- The bytes of a file are no text. -/
  | notText
  deriving DecidableEq, Repr

def FileFault.message : FileFault → String
  | notFound => "No such file or directory (os error 2)"
  | notDirectory => "Not a directory (os error 20)"
  | isDirectory => "Is a directory (os error 21)"
  | alreadyExists => "File exists (os error 17)"
  | nameTooLong => "File name too long (os error 36)"
  | tooManyLinks => "Too many levels of symbolic links (os error 40)"
  | notText => "stream did not contain valid UTF-8"

/-- A file, a link, or a directory with everything below it. -/
inductive FileTree where
  | file (content : ByteArray)
  | link (target : String)
  | directory (entries : List (String × FileTree))

namespace FileTree

def empty : FileTree := directory []

def entries : FileTree → List (String × FileTree)
  | directory entries => entries
  | _ => []

def isDirectory : FileTree → Bool
  | directory _ => true
  | _ => false

def isFile : FileTree → Bool
  | file _ => true
  | _ => false

def get? (tree : FileTree) : List String → Option FileTree
  | [] => some tree
  | name :: rest => (tree.entries.lookup name).bind (get? · rest)

def setEntry (name : String) (value : FileTree) :
    List (String × FileTree) → List (String × FileTree)
  | [] => [(name, value)]
  | entry :: rest =>
      if entry.1 = name then (name, value) :: rest
      else if textLe entry.1 name then entry :: setEntry name value rest
      else (name, value) :: entry :: rest

def set (tree : FileTree) (value : FileTree) : List String → FileTree
  | [] => value
  | name :: rest =>
      directory
        (setEntry name (set ((tree.entries.lookup name).getD empty) value rest) tree.entries)

def remove (tree : FileTree) : List String → FileTree
  | [] => tree
  | [name] => directory (tree.entries.filter fun entry => entry.1 != name)
  | name :: rest =>
      match tree.entries.lookup name with
      | none => tree
      | some child => directory (setEntry name (remove child rest) tree.entries)

@[simp] theorem get?_nil (tree : FileTree) : tree.get? [] = some tree := by
  cases tree <;> rfl

theorem lookup_setEntry_self (name : String) (value : FileTree)
    (entries : List (String × FileTree)) :
    (setEntry name value entries).lookup name = some value := by
  induction entries with
  | nil => simp [setEntry]
  | cons entry rest ih =>
      obtain ⟨key, held⟩ := entry
      unfold setEntry
      split
      · simp
      · split
        · rename_i other _
          have : (name == key) = false := by simpa using fun h => other h.symm
          simp [List.lookup_cons, this, ih]
        · simp

theorem lookup_setEntry_other {name other : String} (value : FileTree)
    (entries : List (String × FileTree)) (different : other ≠ name) :
    (setEntry name value entries).lookup other = entries.lookup other := by
  have apart : (other == name) = false := by simpa using different
  induction entries with
  | nil => simp [setEntry, List.lookup_cons, apart]
  | cons entry rest ih =>
      obtain ⟨key, held⟩ := entry
      unfold setEntry
      split
      · rename_i same
        subst same
        simp [List.lookup_cons, apart]
      · split
        · simp only [List.lookup_cons, ih]
        · simp [List.lookup_cons, apart]

theorem get?_set (tree value : FileTree) (place : List String) :
    (tree.set value place).get? place = some value := by
  induction place generalizing tree with
  | nil => simp [set]
  | cons name rest ih => simp [set, get?, entries, lookup_setEntry_self, ih]

end FileTree
end Resemblance
