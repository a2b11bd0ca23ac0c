import Resemblance.Config
import Resemblance.Decimal.Read
import Resemblance.Json
import Resemblance.Yaml.Read
import Resemblance.Yaml.Write

/-!
The written form of a configuration: a section for each concern, in which every setting may be left
out.
-/

namespace Resemblance.Config

open Yaml (member?)

def readSection {α : Type} (sections : List (String × Yaml)) (name : String)
    (absent : α) (read : List (String × Yaml) → Option α) : Option α :=
  member? sections name absent fun value => value.toMembers?.bind read

/-- Reads a configuration; settings that are left out keep their value in `base`. -/
def ofYaml? (base : Config) (yaml : Yaml) : Option Config := do
  let sections ← yaml.toMembers?
  let maxOrder ← readSection sections "bleu" base.maxOrder fun members =>
    member? members "max_order" base.maxOrder (Yaml.toNat? countBound)
  let weights ← readSection sections "composite" base.weights fun members => do
    let bleu ← member? members "bleu" base.weights.bleu Yaml.toFloat?
    let structural ← member? members "structural" base.weights.structural Yaml.toFloat?
    let delegate ← member? members "delegate" base.weights.delegate Yaml.toFloat?
    some ⟨bleu, structural, delegate⟩
  let editLimit ← readSection sections "structure" base.editLimit fun members =>
    member? members "ted_max_nodes" base.editLimit (Yaml.toNat? countBound)
  let batch ← readSection sections "batch" base fun members => do
    let workers ← member? members "workers" base.workers (Yaml.toNat? countBound)
    let pairTimeout ←
      member? members "pair_timeout_secs" base.pairTimeout (Yaml.toNat? countBound)
    let extension ← member? members "source_extension" base.extension Yaml.toText?
    some { base with workers, pairTimeout, extension }
  let cache ← readSection sections "cache" base fun members => do
    let cacheDirectory ←
      member? members "directory" base.cacheDirectory (Yaml.toOption? Yaml.toText?)
    let metricVersion ← member? members "metric_set_version" base.metricVersion Yaml.toText?
    some { base with cacheDirectory, metricVersion }
  let delegate ← readSection sections "delegate" base fun members => do
    let command ←
      member? members "command" base.command (Yaml.toOption? (Yaml.toList? Yaml.toText?))
    let language ← member? members "language" base.language Yaml.toText?
    some { base with command, language }
  some
    { maxOrder, weights, editLimit
      workers := batch.workers
      pairTimeout := batch.pairTimeout
      extension := batch.extension
      cacheDirectory := cache.cacheDirectory
      metricVersion := cache.metricVersion
      command := delegate.command
      language := delegate.language }

def read (base : Config) (text : String) : Except Failure Config :=
  match (Yaml.read text).bind (ofYaml? base) with
  | some config => .ok config
  | none => .error .malformed

def settingOf {α : Type} (name : String) (write : α → Yaml) (value : Option α) :
    List (String × Yaml) :=
  (value.map fun value => (name, write value)).toList

def toYaml (config : Config) : Yaml :=
  .ofMembers
    [("bleu", .ofMembers [("max_order", .ofNat config.maxOrder)]),
     ("composite", .ofMembers
       [("bleu", .ofFloat config.weights.bleu),
        ("structural", .ofFloat config.weights.structural),
        ("delegate", .ofFloat config.weights.delegate)]),
     ("structure", .ofMembers [("ted_max_nodes", .ofNat config.editLimit)]),
     ("batch", .ofMembers
       [("workers", .ofNat config.workers),
        ("pair_timeout_secs", .ofNat config.pairTimeout),
        ("source_extension", .ofText config.extension)]),
     ("cache", .ofMembers
       (settingOf "directory" .ofText config.cacheDirectory ++
        [("metric_set_version", .ofText config.metricVersion)])),
     ("delegate", .ofMembers
       (settingOf "command" (fun command => .sequence (command.map .ofText)) config.command ++
        [("language", .ofText config.language)]))]

def write (config : Config) : String :=
  config.toYaml.write

end Resemblance.Config
