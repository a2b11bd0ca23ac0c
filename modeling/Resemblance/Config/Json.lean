import Resemblance.Config
import Resemblance.Json

/-!
Configurations as JSON documents, section by section. Settings that are not made do not appear.
-/

namespace Resemblance.Config

def memberOf {α : Type} (name : String) (write : α → Json) (value : Option α) :
    List (String × Json) :=
  (value.map fun value => (name, write value)).toList

def toJson (config : Config) : Json :=
  .ofMembers
    [("bleu", .ofMembers [("max_order", .ofNat config.maxOrder)]),
     ("composite", .ofMembers
       [("bleu", .ofFloat config.weights.bleu),
        ("structural", .ofFloat config.weights.structural),
        ("delegate", .ofFloat config.weights.delegate)]),
     ("structure", .ofMembers [("ted_max_nodes", .ofNat config.editLimit)]),
     ("batch", .ofMembers
       [("workers", .ofNat config.workers), ("pair_timeout_secs", .ofNat config.pairTimeout),
        ("source_extension", .ofText config.extension)]),
     ("cache", .ofMembers
       (memberOf "directory" .ofText config.cacheDirectory ++
        [("metric_set_version", .ofText config.metricVersion)])),
     ("delegate", .ofMembers
       (memberOf "command" (fun command => .array (command.map .ofText)) config.command ++
        [("language", .ofText config.language)]))]

end Resemblance.Config
