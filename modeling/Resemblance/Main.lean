import Resemblance.CommandLine.Snapshot
import Resemblance.Json.Read

/-!
The program. It takes what it may look at as a one-line snapshot from its input, and leaves the
files that a request writes.
-/

namespace Resemblance.CommandLine

def readWorld (request : Request) : IO (Option World) := do
  if request.needsFiles then
    let line ← (← IO.getStdin).getLine
    return (Json.read line).bind World.ofJson?
  else
    return some { grammar := .ofTrees [], now := ⟨0, 0⟩, files := .empty }

def writeFile (entry : List String × ByteArray) : IO Unit := do
  unless entry.1.dropLast.isEmpty do
    IO.FS.createDirAll (FileTree.pathBelow "" entry.1.dropLast)
  IO.FS.writeBinFile (FileTree.pathBelow "" entry.1) entry.2

end Resemblance.CommandLine

open Resemblance in
def main (arguments : List String) : IO UInt32 := do
  match CommandLine.read arguments with
  | none =>
      CommandLine.usage.forM IO.eprintln
      return 2
  | some request =>
      match ← CommandLine.readWorld request with
      | none =>
          IO.eprintln "Error: the snapshot cannot be read"
          return 1
      | some world =>
          let effect := world.perform request
          (FileTree.writtenSince world.files effect.files).forM CommandLine.writeFile
          IO.print effect.output
          IO.eprint effect.errors
          return UInt32.ofNat effect.status
