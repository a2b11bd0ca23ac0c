import Resemblance.Cache.Directory
import Resemblance.Config.Yaml
import Resemblance.Delegate.Command
import Resemblance.Experiment
import Resemblance.Report.Json
import Resemblance.Run

/-!
The engine: runs over experiments, reports on their caches, and comparisons outside of any cache,
all under one configuration.
-/

namespace Resemblance

def Config.delegate (config : Config) : Option Delegate :=
  config.command.map (Delegate.ofCommand config.pairTime)

/-- A configuration with the calculator that it describes. -/
structure Engine where
  config : Config
  calculator : Calculator
  /-- Whether all runs from now on are cancelled. -/
  cancelled : Bool := false

namespace Engine

/-- An engine with a delegate, whatever the configuration says of one. Nothing is checked. -/
def unchecked (grammar : Grammar) (now : Timestamp) (config : Config) (delegate : Option Delegate) :
    Engine :=
  { config, calculator := .ofConfig grammar now config delegate }

def create (grammar : Grammar) (now : Timestamp) (config : Config) (delegate : Option Delegate) :
    Except Failure Engine :=
  config.validate.map fun _ => unchecked grammar now config delegate

def cacheOf (engine : Engine) (root : String) : CacheDirectory :=
  ⟨engine.config.cacheDirectoryFor root, engine.config.metricVersion⟩

/-- Compares the pairs of some artifacts through a store. The analyses made for them are forgotten
afterwards. -/
def runArtifacts (engine : Engine) (store : Store FileTree) (files : FileTree)
    (locations : List ArtifactLocation) (force : Bool) :
    Except Failure RunSummary × Engine × FileTree :=
  let jobs := Job.ofLocations files locations
  let run :=
    (Run.start jobs ⟨engine.calculator, files⟩).sequential
      ⟨store, engine.config.pairTime, force⟩ engine.cancelled jobs
  (run.result, { engine with calculator := run.state.calculator.clear }, run.state.held)

def run (engine : Engine) (files : FileTree) (root : String) (force : Bool) :
    Except Failure RunSummary × Engine × FileTree :=
  if files.hasDirectory root then
    match Experiment.discover files root engine.config.extension with
    | .error failure => (.error failure, engine, files)
    | .ok locations =>
        engine.runArtifacts (engine.cacheOf root).store files locations force
  else
    (.error (.input root "experiment root does not exist or is not a directory" none),
     engine, files)

def entries (engine : Engine) (files : FileTree) (root : String) :
    Except Failure (List CacheEntry) :=
  (engine.cacheOf root).entries files

def report (engine : Engine) (files : FileTree) (root : String) : Except Failure Report :=
  (engine.entries files root).map
    (Report.ofEntries engine.calculator.now engine.config.metricVersion)

def reportPath (engine : Engine) (root : String) : String :=
  Path.join (engine.cacheOf root).root "summary.json"

def writeReport (engine : Engine) (files : FileTree) (root path : String) :
    Except Failure (Report × FileTree) := do
  let report ← engine.report files root
  let parent := Path.parent path
  let files ← (files.makeDirectories parent).mapError fun fault =>
    Failure.file s!"Failed to create {parent}" fault.message
  let files ← (files.writeText path (Json.pretty report.toJson)).mapError fun fault =>
    Failure.file s!"Failed to write {path}" fault.message
  .ok (report, files)

end Engine

namespace Config

def load (base : Config) (files : FileTree) (path : String) : Except Failure Config := do
  let text ← (files.readText path).mapError fun fault =>
    Failure.file s!"Failed to read config file: {path}" fault.message
  read base text

def save (config : Config) (files : FileTree) (path : String) : Except Failure FileTree :=
  (files.writeText path config.write).mapError fun fault =>
    Failure.file s!"Failed to write config file: {path}" fault.message

end Config
end Resemblance
