import Resemblance.Decimal.Read

/-!
The arguments of the program: a command with its options and its path. Arguments are taken from left
to right, and the first that does not fit is the end of it.
-/

namespace Resemblance.CommandLine

structure CompareOptions where
  root : String
  force : Bool
  writeReport : Bool
  config : Option String
  workers : Option Nat
  pairTimeout : Option Nat
  command : Option (List String)
  quiet : Bool

structure SummaryOptions where
  root : String
  config : Option String
  json : Bool

inductive Request where
  | help
  | version
  | compare (options : CompareOptions)
  | summary (options : SummaryOptions)
  | printDefaultConfig
  | validateConfig (path : String)

def Request.needsFiles : Request → Bool
  | compare _ | summary _ | validateConfig _ => true
  | help | version | printDefaultConfig => false

/-- How many values an option takes. -/
inductive Arity where
  | flag
  | one
  | many
  deriving DecidableEq, Repr

structure OptionForm where
  name : String
  letter : Option Char := none
  arity : Arity := .flag
  accepts : String → Bool := fun _ => true

def isCount (text : String) : Bool :=
  (Decimal.readNat? countBound text).isSome

def isPath (text : String) : Bool :=
  !text.isEmpty

def commonOptions : List OptionForm :=
  [{ name := "verbose", letter := some 'v' }, { name := "help", letter := some 'h' }]

def configOption : OptionForm :=
  { name := "config", letter := some 'c', arity := .one, accepts := isPath }

/-- The form of a command: its options, and whether it takes a path. -/
structure CommandForm where
  options : List OptionForm
  takesPath : Bool

def compareForm : CommandForm :=
  { options :=
      [{ name := "force-recompute" }, { name := "export-visualization" }, configOption,
       { name := "workers", arity := .one, accepts := isCount },
       { name := "timeout-secs", arity := .one, accepts := isCount },
       { name := "delegate-command", arity := .many },
       { name := "quiet", letter := some 'q' }]
    takesPath := true }

def summaryForm : CommandForm :=
  { options := [configOption, { name := "json" }], takesPath := true }

def printDefaultConfigForm : CommandForm :=
  { options := [], takesPath := false }

def validateConfigForm : CommandForm :=
  { options := [], takesPath := true }

/-- What was taken from the arguments so far. -/
structure Taken where
  values : List (String × List String) := []
  path : Option String := none

namespace Taken

def has (taken : Taken) (name : String) : Bool :=
  taken.values.any fun entry => entry.1 == name

def value? (taken : Taken) (name : String) : Option String :=
  (taken.values.lookup name).bind List.head?

def count? (taken : Taken) (name : String) : Option Nat :=
  (taken.value? name).bind (Decimal.readNat? countBound)

def add (taken : Taken) (option : OptionForm) (values : List String) : Option Taken :=
  if taken.has option.name || !values.all option.accepts then none
  else some { taken with values := (option.name, values) :: taken.values }

def addPath (taken : Taken) (form : CommandForm) (path : String) : Option Taken :=
  if form.takesPath && taken.path.isNone && isPath path then some { taken with path := some path }
  else none

end Taken

/-- How a list of arguments is taken. -/
inductive Outcome where
  | taken (taken : Taken)
  | helped
  | refused

def isValue (argument : String) : Bool :=
  argument.toList.head? != some '-' || argument == "-"

def splitLong (cs : List Char) : String × Option String :=
  let name := cs.takeWhile (· != '=')
  match cs.drop name.length with
  | [] => (String.ofList name, none)
  | _ :: value => (String.ofList name, some (String.ofList value))

/-- The arguments from which values are taken: those up to the next option. -/
def valuesOf (arity : Arity) (arguments : List String) : List String :=
  match arity with
  | .flag => []
  | .one => (arguments.takeWhile isValue).take 1
  | .many => arguments.takeWhile isValue

/-- An option with the value that is joined to it, and the number of further arguments that it
takes. -/
def takeOption (taken : Taken) (option : OptionForm) (joined : Option String)
    (rest : List String) : Option (Taken × Nat) :=
  match option.arity, joined with
  | .flag, some _ => none
  | .flag, none => (taken.add option []).map fun taken => (taken, 0)
  | _, some value => (taken.add option [value]).map fun taken => (taken, 0)
  | arity, none =>
      let values := valuesOf arity rest
      if values.isEmpty then none
      else (taken.add option values).map fun taken => (taken, values.length)

def takeLetters (options : List OptionForm) (rest : List String) :
    Taken → List Char → Option (Option (Taken × Nat))
  | taken, [] => some (some (taken, 0))
  | taken, c :: more =>
      match options.find? fun option => option.letter == some c with
      | none => none
      | some option =>
          if option.name == "help" then some none
          else if option.arity = .flag then
            (taken.add option []).bind fun taken => takeLetters options rest taken more
          else
            let joined :=
              match more with
              | [] => none
              | '=' :: value => some (String.ofList value)
              | value => some (String.ofList value)
            (takeOption taken option joined rest).map some

/-- Takes arguments, the first `skipped` of which are values already taken. Behind a double dash all
are paths. -/
def takeAll (form : CommandForm) (taken : Taken) (plain : Bool) (skipped : Nat) :
    List String → Outcome
  | [] => .taken taken
  | argument :: rest =>
      let options := commonOptions ++ form.options
      match skipped with
      | skipped + 1 => takeAll form taken plain skipped rest
      | 0 =>
          if plain || isValue argument then
            match taken.addPath form argument with
            | some taken => takeAll form taken plain 0 rest
            | none => .refused
          else
            match argument.toList with
            | ['-', '-'] => takeAll form taken true 0 rest
            | '-' :: '-' :: long =>
                let (name, joined) := splitLong long
                match options.find? fun option => option.name == name with
                | none => .refused
                | some option =>
                    if name == "help" then (if joined.isSome then .refused else .helped)
                    else
                      match takeOption taken option joined rest with
                      | some (taken, used) => takeAll form taken plain used rest
                      | none => .refused
            | _ :: letters =>
                match takeLetters options rest taken letters with
                | none => .refused
                | some none => .helped
                | some (some (taken, used)) => takeAll form taken plain used rest
            | [] => .refused

def readCommand (form : CommandForm) (make : Taken → String → Request) (arguments : List String) :
    Option Request :=
  match takeAll form {} false 0 arguments with
  | .helped => some .help
  | .refused => none
  | .taken taken =>
      if form.takesPath then taken.path.map (make taken) else some (make taken "")

def readNamed (name : String) (arguments : List String) : Option Request :=
  match name with
  | "compare" =>
      readCommand compareForm
        (fun taken root =>
          .compare
            { root
              force := taken.has "force-recompute"
              writeReport := taken.has "export-visualization"
              config := taken.value? "config"
              workers := taken.count? "workers"
              pairTimeout := taken.count? "timeout-secs"
              command := taken.values.lookup "delegate-command"
              quiet := taken.has "quiet" })
        arguments
  | "summary" =>
      readCommand summaryForm
        (fun taken root =>
          .summary { root, config := taken.value? "config", json := taken.has "json" })
        arguments
  | "print-default-config" =>
      readCommand printDefaultConfigForm (fun _ _ => .printDefaultConfig) arguments
  | "validate-config" =>
      readCommand validateConfigForm (fun _ path => .validateConfig path) arguments
  | _ => none

def commandNames : List String :=
  ["compare", "summary", "print-default-config", "validate-config", "help"]

def readHelp : List String → Option Request
  | [] => some .help
  | [name] => if commandNames.contains name then some .help else none
  | _ => none

def readLetters (verbose : Bool) : List Char → Option (Bool × Option Request)
  | [] => some (verbose, none)
  | 'h' :: _ => some (verbose, some .help)
  | 'V' :: _ => some (verbose, some .version)
  | 'v' :: rest => if verbose then none else readLetters true rest
  | _ => none

/-- The request that a list of arguments makes, where verbosity may have been asked for already. -/
def readFrom (verbose : Bool) : List String → Option Request
  | [] => none
  | argument :: rest =>
      match argument.toList with
      | '-' :: '-' :: _ =>
          if argument == "--help" then some .help
          else if argument == "--version" then some .version
          else if argument == "--verbose" && !verbose then readFrom true rest
          else none
      | '-' :: c :: letters =>
          match readLetters verbose (c :: letters) with
          | none => none
          | some (_, some request) => some request
          | some (verbose, none) => readFrom verbose rest
      | _ => if argument == "help" then readHelp rest else readNamed argument rest

def read (arguments : List String) : Option Request :=
  readFrom false arguments

end Resemblance.CommandLine
