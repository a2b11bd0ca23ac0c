/-!
A small command language for delegates: programs joined into sequences, alternatives, pipelines,
groups and conditionals. Commands are evaluated, not started, so what a delegate answers is a
function of what it is asked.
-/

namespace Resemblance.Shell

inductive Stream where
  | input
  | output
  | errors
  deriving DecidableEq, Repr

inductive Target where
  | nowhere
  | stream (stream : Stream)
  deriving DecidableEq, Repr

/-- A stream with the target it is turned to. -/
structure Redirection where
  stream : Stream
  target : Target
  deriving DecidableEq, Repr

inductive Command where
  | skip
  | simple (words : List String) (redirections : List Redirection)
  | sequence (first second : Command)
  /-- The second is run if the first succeeds. -/
  | both (first second : Command)
  /-- The second is run if the first fails. -/
  | either (first second : Command)
  /-- The second reads what the first writes. -/
  | pipe (first second : Command)
  | choice (condition yes no : Command)
  /-- Succeeds if the command fails. -/
  | negation (command : Command)
  /-- A command with redirections; where it is `apart`,
  the end of it is not the end of the process. -/
  | group (apart : Bool) (command : Command) (redirections : List Redirection)

inductive StartFault where
  | notFound
  | notAllowed
  /-- A word holds a character that ends words. -/
  | brokenWord
  deriving DecidableEq, Repr

def StartFault.message : StartFault → String
  | notFound => "No such file or directory (os error 2)"
  | notAllowed => "Permission denied (os error 13)"
  | brokenWord => "nul byte found in provided data"

inductive Ending where
  | exited (status : Nat)
  | killed (signal : Nat)
  deriving DecidableEq, Repr

namespace Ending

def signalName : Nat → Option String
  | 1 => some "SIGHUP"
  | 2 => some "SIGINT"
  | 3 => some "SIGQUIT"
  | 6 => some "SIGABRT"
  | 9 => some "SIGKILL"
  | 11 => some "SIGSEGV"
  | 13 => some "SIGPIPE"
  | 14 => some "SIGALRM"
  | 15 => some "SIGTERM"
  | _ => none

def describe : Ending → String
  | exited status => s!"exit status: {status}"
  | killed signal =>
      match signalName signal with
      | some name => s!"signal: {signal} ({name})"
      | none => s!"signal: {signal}"

def isSuccess : Ending → Bool
  | exited status => status == 0
  | killed _ => false

end Ending

/-- A program under way: the bytes that are left of its input, those it wrote so far, the status of
its last command, the milliseconds it took, and how it ended, if it did. -/
structure Process where
  input : List UInt8
  output : List UInt8 := []
  errors : List UInt8 := []
  status : Nat := 0
  millis : Nat := 0
  ending : Option Ending := none

namespace Process

def print (process : Process) (bytes : List UInt8) : Process :=
  { process with output := process.output ++ bytes }

def complain (process : Process) (text : String) : Process :=
  { process with errors := process.errors ++ (text ++ "\n").toUTF8.toList }

def finish (process : Process) (status : Nat) : Process :=
  { process with status }

def result (process : Process) : Ending :=
  process.ending.getD (.exited process.status)

end Process
end Resemblance.Shell
