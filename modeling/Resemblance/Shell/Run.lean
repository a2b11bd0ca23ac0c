import Resemblance.Decimal.Read
import Resemblance.Path
import Resemblance.Shell.Read
import Resemblance.Tally
import Resemblance.Text.Line
import Resemblance.Text.Utf8

/-!
The meaning of commands, and the programs they can name.
-/

namespace Resemblance.Shell

open Process (print complain finish)

def digitsIn (base : Nat) (digits : List Char) : Nat :=
  digits.foldl (fun n c => n * base + (c.toNat - 48)) 0

def escaped? : Char → Option Char
  | 'n' => some '\n'
  | 't' => some '\t'
  | 'r' => some '\r'
  | '\\' => some '\\'
  | 'a' => some '\x07'
  | 'b' => some '\x08'
  | 'f' => some '\x0c'
  | 'v' => some '\x0b'
  | _ => none

def isOctal (c : Char) : Bool :=
  '0' ≤ c && c ≤ '7'

/-- The bytes that the characters after a backslash stand for, and how many characters those are. Up
to three digits name a byte. -/
def escape? (cs : List Char) : Option (List UInt8 × Nat) :=
  match cs with
  | [] => none
  | c :: _ =>
      let digits := (cs.takeWhile isOctal).take 3
      if digits.isEmpty then (escaped? c).map fun meant => (Text.toBytes [meant], 1)
      else some ([UInt8.ofNat (digitsIn 8 digits)], digits.length)

/-- The escapes of `echo`, in which a zero stands before the digits of a byte. -/
def echoEscape? (cs : List Char) : Option (List UInt8 × Nat) :=
  match cs with
  | '0' :: rest =>
      match escape? rest with
      | some (bytes, used) =>
          if rest.head?.any isOctal then some (bytes, used + 1) else some ([0], 1)
      | none => some ([0], 1)
  | c :: _ => if isOctal c then none else escape? cs
  | [] => none

/-- The bytes of a text with its escapes read, up to one that ends it; whether it was ended. The
first `passed` characters are read already. -/
def unescape (passed : Nat) : List Char → List UInt8 × Bool
  | [] => ([], false)
  | c :: rest =>
      match passed with
      | passed + 1 => unescape passed rest
      | 0 =>
          if c = '\\' && rest.head? == some 'c' then ([], true)
          else
            let (bytes, used) :=
              if c = '\\' then (echoEscape? rest).getD ([92], 0) else (Text.toBytes [c], 0)
            let (after, ended) := unescape used rest
            (bytes ++ after, ended)

def joined (texts : List String) : List Char :=
  Text.joinWith [' '] (texts.map String.toList)

/-- Prints its arguments. The shell's own command reads escapes. -/
def echo (escapes : Bool) (arguments : List String) (process : Process) : Process :=
  let (arguments, ending) :=
    match arguments with
    | "-n" :: rest => (rest, [])
    | _ => (arguments, ['\n'])
  let text := joined arguments
  if escapes then
    let (bytes, ended) := unescape 0 text
    process.print (if ended then bytes else bytes ++ Text.toBytes ending)
  else process.print (Text.toBytes (text ++ ending))

/-- The bytes of a format with its arguments put in, the first `passed` characters of which are read
already. -/
def format (passed : Nat) : List Char → List String → List UInt8
  | [], _ => []
  | c :: rest, arguments =>
      match passed with
      | passed + 1 => format passed rest arguments
      | 0 =>
          if c = '\\' then
            match escape? rest with
            | some (bytes, used) => bytes ++ format used rest arguments
            | none =>
                if rest.head? == some '"' then format 0 rest arguments
                else 92 :: format 0 rest arguments
          else if c = '%' then
            match rest with
            | '%' :: _ => 37 :: format 1 rest arguments
            | 's' :: _ | 'd' :: _ =>
                Text.toBytes (arguments.headD "").toList ++ format 1 rest arguments.tail
            | _ => 37 :: format 0 rest arguments
          else Text.toBytes [c] ++ format 0 rest arguments

def placesIn : List Char → Nat
  | '%' :: c :: rest => (if c = 's' || c = 'd' then 1 else 0) + placesIn rest
  | _ :: rest => placesIn rest
  | [] => 0

/-- Writes a format as often as it takes to use up the arguments. -/
def formatAll (pattern : List Char) : Nat → List String → List UInt8
  | 0, _ => []
  | fuel + 1, arguments =>
      let places := placesIn pattern
      format 0 pattern arguments ++
        (if places = 0 || arguments.length ≤ places then []
         else formatAll pattern fuel (arguments.drop places))

def occurs (part : List Char) : List Char → Bool
  | [] => part.isEmpty
  | c :: rest => part.isPrefixOf (c :: rest) || occurs part rest

def grep (arguments : List String) (process : Process) : Process :=
  let (options, rest) := arguments.span fun argument => argument.toList.head? == some '-'
  let has := fun (c : Char) => options.any fun option => option.toList.contains c
  let pattern := (rest.headD "").toList
  let lines := (Text.lines (Text.ofBytes ⟨process.input.toArray⟩).toList).filter fun line =>
    occurs pattern line != has 'v'
  let process := { process with input := [] }
  let printed :=
    if has 'q' then process
    else if has 'c' then process.print (Text.toBytes (Nat.toDigits 10 lines.length ++ ['\n']))
    else process.print (lines.flatMap fun line => Text.toBytes (line ++ ['\n']))
  printed.finish (if lines.isEmpty then 1 else 0)

def millisOf (text : String) : Nat :=
  match (Decimal.readFloat? text) with
  | some seconds => (seconds * 1000.0).toUInt64.toNat
  | none => 0

def signal? (option : List Char) : Option Nat :=
  match option with
  | '-' :: rest =>
      if !rest.isEmpty && rest.all Char.isDigit then some (digitsIn 10 rest)
      else
        [1, 2, 3, 6, 9, 11, 13, 14, 15].find? fun signal =>
          (Ending.signalName signal).any fun name =>
            name.toList == rest || name.toList.drop 3 == rest
  | _ => none

/-- Sends a signal to the shell itself, which is the only process a command can name. -/
def kill (arguments : List String) (process : Process) : Process :=
  let (option, target) :=
    match arguments with
    | [target] => ("-15", target)
    | [option, target] => (option, target)
    | ["-s", name, target] => ("-" ++ name, target)
    | _ => ("", "")
  match signal? option.toList with
  | some signal =>
      if target.toList != ownProcess then process.finish 1
      else if signal = 0 then process.finish 0
      else { process with ending := some (.killed signal) }
  | none => process.finish 1

def program? (inShell : Bool) (name : String) (arguments : List String) (process : Process) :
    Option Process :=
  match name with
  | "echo" => some ((echo inShell arguments process).finish 0)
  | "printf" =>
      match arguments with
      | [] => some ((process.complain "printf: usage: printf format [arg ...]").finish 2)
      | pattern :: rest =>
          some ((process.print (formatAll pattern.toList (rest.length + 1) rest)).finish 0)
  | "cat" => some ({ process.print process.input with input := [] }.finish 0)
  | "grep" => some (grep arguments process)
  | "true" => some (process.finish 0)
  | "false" => some (process.finish 1)
  | "sleep" =>
      some { process.finish 0 with
        millis := process.millis + sumOf (arguments.map millisOf) }
  | _ => none

def programName (name : String) : String :=
  ["/bin/", "/usr/bin/"].foldl
    (fun name directory =>
      if directory.toList.isPrefixOf name.toList then
        String.ofList (name.toList.drop directory.length)
      else name)
    name

def statusOf (arguments : List String) (process : Process) : Nat :=
  match arguments with
  | [] => process.status
  | argument :: _ => digitsIn 10 (argument.toList.filter Char.isDigit) % 256

def runWords (words : List String) (process : Process) : Process :=
  match words with
  | [] => process.finish 0
  | ":" :: _ => process.finish 0
  | "exit" :: arguments =>
      { process with ending := some (.exited (statusOf arguments process)) }
  | "kill" :: arguments => kill arguments process
  | "exec" :: name :: arguments =>
      match program? false (programName name) arguments process with
      | some process => { process with ending := some (.exited process.status) }
      | none =>
          { process.complain s!"sh: 1: exec: {name}: not found" with
            ending := some (.exited 127) }
  | name :: arguments =>
      match program? true (programName name) arguments process with
      | some process => process
      | none => (process.complain s!"sh: 1: {name}: not found").finish 127

/-- Where the two streams of a command lead. -/
structure Outlets where
  output : Target := .stream .output
  errors : Target := .stream .errors

def Outlets.follow (outlets : Outlets) : Target → Target
  | .stream .output => outlets.output
  | .stream .errors => outlets.errors
  | target => target

def Outlets.redirect (outlets : Outlets) (redirection : Redirection) : Outlets :=
  match redirection.stream with
  | .output => { outlets with output := outlets.follow redirection.target }
  | .errors => { outlets with errors := outlets.follow redirection.target }
  | .input => outlets

def Process.pour (process : Process) (target : Target) (bytes : List UInt8) : Process :=
  match target with
  | .stream .output => process.print bytes
  | .stream .errors => { process with errors := process.errors ++ bytes }
  | _ => process

def runWithin (redirections : List Redirection) (inside : Process → Process) (process : Process) :
    Process :=
  let outlets := redirections.foldl Outlets.redirect {}
  let closed := redirections.any fun redirection => redirection.stream = .input
  let inner :=
    inside
      { process with
        input := if closed then [] else process.input
        output := []
        errors := [] }
  let after :=
    { inner with
      input := if closed then process.input else inner.input
      output := process.output
      errors := process.errors }
  (after.pour outlets.output inner.output).pour outlets.errors inner.errors

/-- Goes on after a part that ran apart: its exit is only a status. -/
def Process.resume (process : Process) : Process :=
  match process.ending with
  | some (.exited status) => { process with ending := none, status }
  | _ => process

def run : Command → Process → Process
  | .skip, process => process
  | .simple words redirections, process =>
      if process.ending.isSome then process
      else runWithin redirections (runWords words) process
  | .sequence first second, process => run second (run first process)
  | .both first second, process =>
      let process := run first process
      if process.status = 0 then run second process else process
  | .either first second, process =>
      let process := run first process
      if process.status = 0 then process else run second process
  | .pipe first second, process =>
      if process.ending.isSome then process
      else
        let left := run first { process with output := [] }
        let right :=
          run second { left.resume with input := left.output, output := process.output }
        { right.resume with input := left.input }
  | .choice condition yes no, process =>
      let process := run condition process
      if process.status = 0 then run yes process else run no process
  | .negation command, process =>
      let process := run command process
      process.finish (if process.status = 0 then 1 else 0)
  | .group apart command redirections, process =>
      if process.ending.isSome then process
      else
        let process := runWithin redirections (run command) process
        if apart then process.resume else process

def runText (text : String) (process : Process) : Process :=
  match read text with
  | some command => run command process
  | none => (process.complain "sh: 1: Syntax error").finish 2

/-- Things that every system has and that are no programs, at the top or below it. -/
def noPrograms : List (List String) :=
  [[], [".."], ["bin"], ["dev"], ["etc"], ["home"], ["lib"], ["opt"], ["proc"], ["root"], ["run"],
   ["sbin"], ["sys"], ["tmp"], ["usr"], ["var"], ["usr", "bin"], ["usr", "lib"], ["dev", "null"],
   ["etc", "hosts"], ["etc", "passwd"]]

/-- Why there is no program of a name: nothing is there, or something that cannot be started. -/
def startFault (name : String) : StartFault :=
  if name == "." || name == ".." then .notAllowed
  else if name.toList.contains '/' && noPrograms.contains (Path.names name) then .notAllowed
  else .notFound

def execute (command : List String) (input : String) : Except StartFault Process :=
  let process : Process := { input := Text.toBytes input.toList }
  if command.any fun word => word.toList.contains '\x00' then .error .brokenWord
  else
    match command with
    | [] => .error .notFound
    | name :: arguments =>
        match programName name, arguments with
        | "sh", "-c" :: text :: _ => .ok (runText text process)
        | "sh", [] => .ok (runText input { process with input := [] })
        | simple, arguments =>
            match program? false simple arguments process with
            | some process => .ok process
            | none => .error (startFault name)

end Resemblance.Shell
