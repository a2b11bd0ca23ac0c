import Resemblance.FileTree

/-!
Access to a tree of files by path: the names of a path are followed one by one, links and steps back
on the way too, and what cannot be done is refused with the fault that stands in its way.
-/

namespace Resemblance.FileTree

def greatestLinks : Nat := 40

def greatestName : Nat := 255

def greatestPath : Nat := 4095

/-- A path that is too long as a whole is refused before any of it is looked up. -/
def checkPath (path : String) : Except FileFault Unit :=
  if greatestPath < path.utf8ByteSize then .error .nameTooLong else .ok ()

/-- How far a path leads before a link. -/
inductive Arrival where
  /-- To a place, at which something stands or could be put. -/
  | reached (place : List String)
  /-- To a link in a directory, with names still to come. -/
  | linked (directory : List String) (target : String) (rest : List String)

/-- Follows names from a place up to the first link. Only the last name may be missing. A step back
leads to the directory above the one it is taken from, which has to be there. -/
def advance (tree : FileTree) (place : List String) : List String → Except FileFault Arrival
  | [] => .ok (.reached place)
  | name :: rest =>
      match tree.get? place with
      | some (directory entries) =>
          if name = ".." then advance tree place.dropLast rest
          else if greatestName < name.utf8ByteSize then .error .nameTooLong
          else
            match entries.lookup name with
            | none => if rest.isEmpty then .ok (.reached (place ++ [name])) else .error .notFound
            | some (link target) => .ok (.linked place target rest)
            | some _ => advance tree (place ++ [name]) rest
      | _ => .error .notDirectory

def resolve (tree : FileTree) : Nat → List String → Except FileFault (List String)
  | 0, _ => .error .tooManyLinks
  | links + 1, names => do
      match ← advance tree [] names with
      | .reached place => .ok place
      | .linked place target rest =>
          let base := "/" ++ "/".intercalate place
          resolve tree links (Path.names (Path.join base target) ++ rest)

def locate (tree : FileTree) (path : String) : Except FileFault (List String) :=
  tree.resolve (greatestLinks + 1) (Path.names path)

def find (tree : FileTree) (path : String) : Except FileFault FileTree := do
  checkPath path
  match tree.get? (← tree.locate path) with
  | some found => .ok found
  | none => .error .notFound

def hasDirectory (tree : FileTree) (path : String) : Bool :=
  match tree.find path with
  | .ok found => found.isDirectory
  | .error _ => false

def hasFile (tree : FileTree) (path : String) : Bool :=
  match tree.find path with
  | .ok found => found.isFile
  | .error _ => false

def readBytes (tree : FileTree) (path : String) : Except FileFault ByteArray := do
  match ← tree.find path with
  | file content => .ok content
  | _ => .error .isDirectory

def readText (tree : FileTree) (path : String) : Except FileFault String := do
  match String.fromUTF8? (← tree.readBytes path) with
  | some text => .ok text
  | none => .error .notText

/-- The place of the last of some names, which is not followed if it is a link. -/
def locateName (tree : FileTree) (names : List String) : Except FileFault (List String) := do
  match names.getLast? with
  | none => .ok []
  | some name =>
      if name = ".." then tree.resolve (greatestLinks + 1) names
      else
        let place ← tree.resolve (greatestLinks + 1) names.dropLast
        match tree.get? place with
        | some (directory _) =>
            if greatestName < name.utf8ByteSize then .error .nameTooLong else .ok (place ++ [name])
        | some _ => .error .notDirectory
        | none => .error .notFound

/-- Makes the directories that all beginnings of some names lead to, where there are none. -/
def makeAll (tree : FileTree) (done : List String) : List String → Except FileFault FileTree
  | [] => .ok tree
  | name :: rest => do
      let names := done ++ [name]
      let inTheWay := if rest.isEmpty then FileFault.alreadyExists else .notDirectory
      let place ← tree.locateName names
      match tree.get? place with
      | none => makeAll (tree.set empty place) names rest
      | some (directory _) => makeAll tree names rest
      | some (file _) => .error inTheWay
      | some (link _) =>
          match tree.get? (← tree.resolve (greatestLinks + 1) names) with
          | none => .error .alreadyExists
          | some (directory _) => makeAll tree names rest
          | some _ => .error inTheWay

def makeDirectories (tree : FileTree) (path : String) : Except FileFault FileTree := do
  checkPath path
  makeAll tree [] (Path.names path)

def writeBytes (tree : FileTree) (path : String) (content : ByteArray) :
    Except FileFault FileTree := do
  checkPath path
  let place ← tree.locate path
  match tree.get? place with
  | some (directory _) => .error .isDirectory
  | _ => .ok (tree.set (file content) place)

def writeText (tree : FileTree) (path text : String) : Except FileFault FileTree :=
  tree.writeBytes path text.toUTF8

/-- Puts something at a path in place of a file or link that is there. -/
def replace (tree : FileTree) (path : String) (value : FileTree) : Except FileFault FileTree := do
  checkPath path
  let place ← tree.locateName (Path.names path)
  match tree.get? place with
  | some (directory _) => .error .isDirectory
  | _ => .ok (tree.set value place)

def delete (tree : FileTree) (path : String) : Except FileFault FileTree := do
  checkPath path
  let place ← tree.locateName (Path.names path)
  match tree.get? place with
  | none => .error .notFound
  | some _ => .ok (tree.remove place)

mutual

/-- Everything below a tree, each directory before its entries, with the names that lead to it. -/
def contents (place : List String) : FileTree → List (List String × FileTree)
  | directory entries => contentsAmong place entries
  | _ => []

def contentsAmong (place : List String) :
    List (String × FileTree) → List (List String × FileTree)
  | [] => []
  | (name, tree) :: rest =>
      (place ++ [name], tree) :: (contents (place ++ [name]) tree ++ contentsAmong place rest)

end

def walk (tree : FileTree) : List (List String × FileTree) :=
  contents [] tree

/-- The files of a tree that another tree does not hold with the same content, with the names that
lead to them. -/
def writtenSince (before after : FileTree) : List (List String × ByteArray) :=
  after.walk.filterMap fun entry =>
    match entry.2, before.get? entry.1 with
    | file content, some (file old) =>
        if content.data == old.data then none else some (entry.1, content)
    | file content, _ => some (entry.1, content)
    | _, _ => none

def pathBelow (base : String) (place : List String) : String :=
  place.foldl Path.join base

end Resemblance.FileTree
