import Resemblance.Artifact
import Resemblance.Digest
import Resemblance.Failure
import Resemblance.FileTree.Access
import Resemblance.Grammar
import Resemblance.Shape.Report
import Resemblance.Text.Utf8

/-!
Sources read from files. A file that is missing, too great or not text is refused; bytes that are no
text within a text are replaced.
-/

namespace Resemblance

def greatestSource : Nat := 10 * 1024 * 1024

def sampleSize : Nat := 1024

/-- Whether more than one in a hundred of the first bytes are zero. -/
def looksBinary (content : ByteArray) : Bool :=
  let sample := (content.extract 0 sampleSize).toList
  sample.length < 100 * sample.count 0

def readSource (files : FileTree) (path : String) : Except Failure String := do
  let found ← (files.find path).mapError fun fault => Failure.unreadable path fault.message
  match found with
  | .file content =>
      if greatestSource < content.size then
        .error (.input path
          s!"file is {content.size} bytes, above the {greatestSource} byte limit" none)
      else if looksBinary content then .error (.input path "file appears to be binary" none)
      else .ok (Text.ofBytes content)
  | _ => .error (.input path "not a regular file" none)

structure Artifact where
  id : ArtifactId
  source : String
  fingerprint : String

namespace Artifact

def ofSource (id : ArtifactId) (source : String) : Artifact :=
  ⟨id, source, Digest.ofText source⟩

def load (files : FileTree) (location : ArtifactLocation) : Except Failure Artifact :=
  (readSource files location.path).map (ofSource location.id)

end Artifact

def ShapeReport.ofFile (grammar : Grammar) (files : FileTree) (path : String) : ShapeReport :=
  let report :=
    match readSource files path with
    | .ok source => ShapeReport.ofSource grammar source
    | .error failure => ShapeReport.failed (.unreadable failure.message)
  { report with fileExists := some (files.hasFile path) }

end Resemblance
