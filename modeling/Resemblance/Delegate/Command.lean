import Resemblance.Delegate
import Resemblance.Json.Read
import Resemblance.Json.Write
import Resemblance.Record.Json
import Resemblance.Shell.Run
import Resemblance.Text.Blank

/-!
Delegates that are commands: the request goes to the command's input as one JSON document, and its
output must be the JSON document of the scores.
-/

namespace Resemblance.Delegate

def request (reference candidate language : String) : String :=
  Json.compact
    (.ofMembers
      [("reference", .ofText reference), ("candidate", .ofText candidate),
       ("language", .ofText language)])

def readScores (output : List UInt8) : Except DelegateFailure DelegateScores :=
  match ((String.fromUTF8? ⟨output.toArray⟩).bind Json.read).bind DelegateScores.ofJson? with
  | some scores => scores.check
  | none => .error (.malformed "the answer holds no scores")

/-- What a command that has ended answers. No command ends at once. -/
def answerOf (limit : Duration) (process : Shell.Process) : Except DelegateFailure DelegateScores :=
  if limit.millis < max 1 process.millis then .error (.timedOut limit)
  else if process.result.isSuccess then readScores process.output
  else
    .error (.exited process.result.describe
      (String.ofList (Text.trim (Text.ofBytes ⟨process.errors.toArray⟩).toList)))

def ofCommand (limit : Duration) (command : List String) : Delegate :=
  { name := command.headD ""
    ask := fun reference candidate language =>
      .answered
        (match Shell.execute command (request reference candidate language) with
         | .ok process => answerOf limit process
         | .error fault => .error (.notStarted fault.message)) }

end Resemblance.Delegate
