import Resemblance.Cache.Entry
import Resemblance.Cache.Store
import Resemblance.FileTree.Access

/-!
The cache as a directory of files: one document for each entry, at the path of its key. A document
that cannot be read as an entry counts as missing, and an entry of another key is never served.
-/

namespace Resemblance

/-- The directory of a cache, and the version of the metrics of its records. -/
structure CacheDirectory where
  root : String
  version : String

namespace CacheDirectory

def entryPath (cache : CacheDirectory) (key : CacheKey) : String :=
  Path.join cache.root key.path

def versionPath (cache : CacheDirectory) : String :=
  Path.join cache.root (safeName cache.version)

def failing (detail : String) (fault : FileFault) : Failure :=
  .cacheStorage detail (some fault.message)

def readEntry (files : FileTree) (path : String) : Except Failure (Option CacheEntry) :=
  match files.readText path with
  | .ok text => .ok (CacheEntry.read text)
  | .error .notFound => .ok none
  | .error fault => .error (failing "Failed to read cache entry" fault)

def get (cache : CacheDirectory) (key : CacheKey) (files : FileTree) :
    Except Failure (Option Record) :=
  (readEntry files (cache.entryPath key)).map fun entry =>
    (entry.filter fun entry => entry.key == key).map CacheEntry.record

/-- A document is first written under a name that is longer by so many bytes: for its extension it
has thirty-two digits and another extension. -/
def temporaryExcess : Nat := 32

def checkTemporary (path : String) : Except FileFault Unit :=
  if FileTree.greatestPath < path.utf8ByteSize + temporaryExcess then .error .nameTooLong
    else .ok ()

def put (cache : CacheDirectory) (key : CacheKey) (record : Record) (files : FileTree) :
    Except Failure FileTree := do
  let path := cache.entryPath key
  let files ← (files.makeDirectories (Path.parent path)).mapError
    (failing "Failed to create cache directory")
  (checkTemporary path).mapError (failing "Failed to write cache entry")
  let document := FileTree.file (CacheEntry.write ⟨key, record⟩).toUTF8
  (files.replace path document).mapError (failing "Failed to rename cache entry")

def store (cache : CacheDirectory) : Store FileTree :=
  ⟨cache.version, cache.get, cache.put⟩

def isDocument (place : List String) (tree : FileTree) : Bool :=
  tree.isFile && (place.getLast?.bind Path.extension) == some "json"

/-- What listing meets at a place: an entry in a document, nothing in anything else. A directory is
listed itself, for which its path must not be too long. -/
def readListed (cache : CacheDirectory) (files : FileTree) (place : List String) (tree : FileTree) :
    Except Failure (Option CacheEntry) :=
  let path := FileTree.pathBelow cache.versionPath place
  if isDocument place tree then readEntry files path
  else if tree.isDirectory then
    ((FileTree.checkPath path).mapError (failing "Failed to walk cache directory")).map fun _ =>
      none
  else .ok none

def entries (cache : CacheDirectory) (files : FileTree) : Except Failure (List CacheEntry) :=
  match files.find cache.versionPath with
  | .ok tree =>
      (tree.walk.mapM fun found => cache.readListed files found.1 found.2).map
        fun found => found.filterMap id
  | .error _ => .ok []

end CacheDirectory
end Resemblance
