import Resemblance.Artifact
import Resemblance.Decimal.Read
import Resemblance.Failure
import Resemblance.FileTree.Access

/-!
The layout of an experiment: its artifacts lie five names below the directory of generated code,
namely challenge, prompt, temperature, iteration, and the model with the extension of the language.
-/

namespace Resemblance.Experiment

def codeDirectory : String := "code"

/-- Files of this name hold parameters and are no artifacts. -/
def parametersName : String := "generation_params"

def depth : Nat := 5

/-- The directory of generated code in an experiment, which is the experiment itself if it has
none. -/
def codeRoot (files : FileTree) (root : String) : String :=
  let nested := Path.join root codeDirectory
  if files.hasDirectory nested then nested else root

def afterStart (start text : String) : Option String :=
  if text.toList.take start.length == start.toList then
    some (String.ofList (text.toList.drop start.length))
  else none

def identify : List String → Option ArtifactId
  | [challenge, prompt, temperature, iteration, file] => do
      let _ ← afterStart "temp" temperature
      let iteration ← Decimal.readNat? iterationBound (← afterStart "iteration_" iteration)
      let model := Path.stem file
      if model == parametersName || model.isEmpty then none
      else some { challenge, prompt, temperature, iteration, model }
  | _ => none

/-- Whether the directory that a place is in can be listed: what it is listed by is its path. -/
def isListed (base : String) (place : List String) : Bool :=
  (FileTree.pathBelow base place.dropLast).utf8ByteSize ≤ FileTree.greatestPath

/-- The location of an artifact, if a place below the generated code holds one. What cannot be
listed is passed over. -/
def location? (base extension : String) (place : List String) (tree : FileTree) :
    Option ArtifactLocation :=
  let path := FileTree.pathBelow base place
  if place.length = depth && !tree.isDirectory && Path.extension path == some extension &&
      isListed base place then
    (identify place).map fun id => ⟨id, path⟩
  else none

def discover (files : FileTree) (root extension : String) :
    Except Failure (List ArtifactLocation) :=
  if files.hasDirectory root then
    let base := codeRoot files root
    match files.find base with
    | .error fault => .error (.unreadable base fault.message)
    | .ok tree =>
        let found := tree.walk.filterMap fun entry => location? base extension entry.1 entry.2
        .ok (found.mergeSort fun a b => a.id.le b.id)
  else .error (.input root "experiment root is not a readable directory" none)

end Resemblance.Experiment
