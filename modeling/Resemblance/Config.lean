import Resemblance.Composite
import Resemblance.Delegate
import Resemblance.Path
import Resemblance.Text.Blank

/-!
The configuration: the length of grams, the weights of the composite score, the limit of edit
distances, the scheduling of runs, the place of the cache, and the delegate.
-/

namespace Resemblance

structure Config where
  maxOrder : Nat := 4
  weights : Weights Float := ⟨0.3, 0.3, 0.4⟩
  /-- Shapes with more nodes have no edit distances; with zero none has. -/
  editLimit : Nat := 1500
  /-- How many pairs are compared at a time. -/
  workers : Nat := 4
  /-- How many seconds one comparison may take. -/
  pairTimeout : Nat := 60
  /-- The extension of source files, without its dot. -/
  extension : String := "py"
  cacheDirectory : Option String := none
  /-- The version of the metrics; records of one version are never taken for those of another. -/
  metricVersion : String := "v1"
  /-- The program of the delegate and its arguments. -/
  command : Option (List String) := none
  /-- The language that the delegate is told. -/
  language : String := "python"

inductive ConfigFault where
  | notPositive (field : String)
  | notNonNegative (field : String)
  | allZero (field : String)
  | orderTooGreat
  | badExtension
  | badVersion
  | noProgram
  deriving DecidableEq, Repr

namespace ConfigFault

def field : ConfigFault → String
  | notPositive field => field
  | notNonNegative field => field
  | allZero field => field
  | orderTooGreat => "bleu.max_order"
  | badExtension => "batch.source_extension"
  | badVersion => "cache.metric_set_version"
  | noProgram => "delegate.command"

def message : ConfigFault → String
  | notPositive field => s!"{field} must be greater than 0"
  | notNonNegative field => s!"{field} must be a finite non-negative number"
  | allZero field => s!"{field} weights must not all be zero"
  | orderTooGreat => "max_order above 8 makes the unsmoothed score collapse to zero"
  | badExtension => "source_extension must be non-empty and given without a leading dot"
  | badVersion => "metric_set_version must be a non-empty path-safe tag"
  | noProgram => "command must name a program"

def toFailure (fault : ConfigFault) : Failure :=
  .configuration fault.message (some fault.field)

end ConfigFault

namespace Config

def checkPositive (value : Nat) (field : String) : Except ConfigFault Unit :=
  if value = 0 then .error (.notPositive field) else .ok ()

def checkNonNegative (value : Float) (field : String) : Except ConfigFault Unit :=
  if !value.isFinite || value < 0.0 then .error (.notNonNegative field) else .ok ()

def checkNotAllZero (weights : List Float) (field : String) : Except ConfigFault Unit :=
  if weights.all (· ≤ 0.0) then .error (.allZero field) else .ok ()

def greatestOrder : Nat := 8

def checkOrder (maxOrder : Nat) : Except ConfigFault Unit := do
  checkPositive maxOrder "bleu.max_order"
  if greatestOrder < maxOrder then .error .orderTooGreat else .ok ()

def checkWeights (weights : Weights Float) : Except ConfigFault Unit := do
  checkNonNegative weights.bleu "composite.bleu"
  checkNonNegative weights.structural "composite.structural"
  checkNonNegative weights.delegate "composite.delegate"
  checkNotAllZero [weights.bleu, weights.structural, weights.delegate] "composite"

def checkExtension (extension : String) : Except ConfigFault Unit :=
  if extension.isEmpty || extension.toList.head? == some '.' then .error .badExtension else .ok ()

def isVersionTag (version : String) : Bool :=
  !version.isEmpty && version.toList.all fun c =>
    c.isAlphanum || c == '.' || c == '-' || c == '_'

def checkVersion (version : String) : Except ConfigFault Unit :=
  if isVersionTag version then .ok () else .error .badVersion

def checkCommand : Option (List String) → Except ConfigFault Unit
  | none => .ok ()
  | some [] => .error .noProgram
  | some (program :: _) => if Text.isAllBlank program.toList then .error .noProgram else .ok ()

/-- Checks all settings in their order; the first fault counts. -/
def check (config : Config) : Except ConfigFault Unit := do
  checkOrder config.maxOrder
  checkWeights config.weights
  checkPositive config.workers "batch.workers"
  checkPositive config.pairTimeout "batch.pair_timeout_secs"
  checkExtension config.extension
  checkVersion config.metricVersion
  checkCommand config.command

def validate (config : Config) : Except Failure Unit :=
  config.check.mapError ConfigFault.toFailure

def defaultCacheDirectory : String := "similarity_analysis"

/-- The directory of the cache for an experiment; one that is not absolute lies in the
experiment. -/
def cacheDirectoryFor (config : Config) (root : String) : String :=
  Path.join root (config.cacheDirectory.getD defaultCacheDirectory)

def delegateName (config : Config) : Option String :=
  config.command.map fun command => command.headD ""

def pairTime (config : Config) : Duration :=
  .ofSeconds config.pairTimeout

end Config
end Resemblance
