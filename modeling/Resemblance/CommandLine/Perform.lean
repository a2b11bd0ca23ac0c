import Resemblance.CommandLine
import Resemblance.CommandLine.Show
import Resemblance.Engine

/-!
The program as a function: what a request prints, and what it leaves in the files.
-/

namespace Resemblance.CommandLine

/-- Why a request cannot be met: what was being done, and the failures behind it. -/
structure Complaint where
  message : String
  causes : List String := []

namespace Complaint

def ofFailure (failure : Failure) : Complaint :=
  ⟨failure.message, failure.cause.toList⟩

def within (context : String) (failure : Failure) : Complaint :=
  ⟨context, failure.message :: failure.cause.toList⟩

def indented (first further : String) (text : String) : String :=
  first ++ ("\n" ++ further).intercalate ((Terminal.cellLines text.toList).map String.ofList)

def numbered (entry : String × Nat) : String :=
  let number := toString entry.2
  let room := String.ofList (List.replicate (5 - number.length) ' ')
  indented (room ++ number ++ ": ") "       " entry.1

def write (complaint : Complaint) : String :=
  let listed :=
    match complaint.causes with
    | [] => []
    | [cause] => ["", "Caused by:", indented "    " "    " cause]
    | causes => ["", "Caused by:"] ++ causes.zipIdx.map numbered
  "\n".intercalate (("Error: " ++ complaint.message) :: listed)

end Complaint

/-- The lines that a request prints, the complaint it ends in, if any, and the files it leaves. -/
structure Effect where
  lines : List String
  complaint : Option Complaint := none
  files : FileTree

namespace Effect

def output (effect : Effect) : String :=
  String.join (effect.lines.map (· ++ "\n"))

def errors (effect : Effect) : String :=
  match effect.complaint with
  | some complaint => complaint.write ++ "\n"
  | none => ""

def status (effect : Effect) : Nat :=
  if effect.complaint.isSome then 1 else 0

end Effect

structure World where
  grammar : Grammar
  now : Timestamp
  files : FileTree
  /-- The configuration where nothing else is said. -/
  defaults : Config := {}

namespace World

def conclude (world : World) (result : Except Complaint Effect) : Effect :=
  match result with
  | .ok effect => effect
  | .error complaint => { lines := [], complaint := some complaint, files := world.files }

def requireRoot (world : World) (root : String) : Except Complaint Unit :=
  if world.files.hasDirectory root then .ok ()
  else .error ⟨s!"Input directory does not exist or is not a directory: {root}", []⟩

def loadConfig (world : World) : Option String → Except Complaint Config
  | none => .ok world.defaults
  | some path =>
      (Config.load world.defaults world.files path).mapError
        (.within s!"Failed to load configuration from {path}")

def engine (world : World) (config : Config) : Except Complaint Engine :=
  (Engine.create world.grammar world.now config config.delegate).mapError
    (.within "Invalid configuration")

def withOptions (config : Config) (options : CompareOptions) : Config :=
  { config with
    workers := options.workers.getD config.workers
    pairTimeout := options.pairTimeout.getD config.pairTimeout
    command := options.command.or config.command }

def exportReport (engine : Engine) (root : String) (lines : List String)
    (files : FileTree) : Effect :=
  let path := engine.reportPath root
  match engine.writeReport files root path with
  | .error failure => { lines, complaint := some (.ofFailure failure), files }
  | .ok (_, files) =>
      let told := Terminal.heading .brightGreen "Summary exported to"
      { lines := lines ++ [s!"{told} {Terminal.paint .cyan path}"], files }

def compare (world : World) (options : CompareOptions) : Effect :=
  world.conclude do
    world.requireRoot options.root
    let engine ← world.engine (withOptions (← world.loadConfig options.config) options)
    let shown := fun (lines : List String) => if options.quiet then [] else lines
    let settings := shown (showConfig engine.config)
    match engine.run world.files options.root options.force with
    | (.error failure, _, files) =>
        .ok
          { lines := settings
            complaint := some (.within "Similarity run failed" failure)
            files }
    | (.ok summary, engine, files) =>
        let lines := settings ++ shown (showRun summary)
        if options.writeReport then .ok (exportReport engine options.root lines files)
        else .ok { lines, files }

def summary (world : World) (options : SummaryOptions) : Effect :=
  world.conclude do
    world.requireRoot options.root
    let engine ← world.engine (← world.loadConfig options.config)
    let report ← (engine.report world.files options.root).mapError Complaint.ofFailure
    let lines :=
      if options.json then [Json.pretty report.toJson]
      else showSummary report.summary ++ showConsistency report
    .ok { lines, files := world.files }

def printDefaultConfig (world : World) : Effect :=
  { lines :=
      ["# Default codesim configuration", "# Save this to a file and customize as needed",
       "# Usage: codesim compare --config your-config.yml <input_dir>", "", world.defaults.write]
    files := world.files }

def validateConfig (world : World) (path : String) : Effect :=
  world.conclude do
    let config ← world.loadConfig (some path)
    config.validate.mapError (Complaint.within s!"Configuration {path} is invalid")
    let told := Terminal.heading .brightGreen "Configuration file is valid:"
    .ok
      { lines := s!"{told} {Terminal.paint .cyan path}" :: showConfig config
        files := world.files }

def perform (world : World) : Request → Effect
  | .compare options => world.compare options
  | .summary options => world.summary options
  | .printDefaultConfig => world.printDefaultConfig
  | .validateConfig path => world.validateConfig path
  | .help => { lines := usage, files := world.files }
  | .version => { lines := [version], files := world.files }

end World
end Resemblance.CommandLine
