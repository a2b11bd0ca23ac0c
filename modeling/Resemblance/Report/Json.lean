import Resemblance.Report

/-!
Reports and their parts as JSON documents.
-/

namespace Resemblance

def meansToJson (means : List (String × Float)) : Json :=
  .ofMembers (means.map fun entry => (entry.1, .ofFloat entry.2))

def textsToJson (texts : List String) : Json :=
  .array (texts.map .ofText)

def Statistics.toJson (statistics : Statistics Float) : Json :=
  .ofMembers
    [("count", .ofNat statistics.count), ("mean", .ofFloat statistics.mean),
     ("min", .ofFloat statistics.least), ("max", .ofFloat statistics.greatest),
     ("std_dev", .ofFloat statistics.deviation)]

def ConsistencyScores.toJson (scores : ConsistencyScores) : Json :=
  .ofMembers
    [("overall", .ofFloat scores.overall), ("structural", .ofFloat scores.structural),
     ("semantic", .ofFloat scores.semantic), ("average", .ofFloat scores.average),
     ("grade", .ofText scores.grade.letter)]

def Summary.toJson (summary : Summary) : Json :=
  .ofMembers
    [("total_comparisons", .ofNat summary.comparisons), ("error_records", .ofNat summary.errors),
     ("models", textsToJson summary.models), ("challenges", textsToJson summary.challenges),
     ("temperatures", textsToJson summary.temperatures),
     ("per_metric_means", meansToJson summary.means),
     ("per_metric_stats",
       .ofMembers (summary.statistics.map fun entry => (entry.1, entry.2.toJson)))]

def BucketSummary.toJson (bucket : BucketSummary) : Json :=
  .ofMembers
    [("model", .ofText bucket.key.model), ("challenge", .ofText bucket.key.challenge),
     ("prompt", .ofText bucket.key.prompt), ("temperature", .ofText bucket.key.temperature),
     ("comparisons", .ofNat bucket.comparisons), ("per_metric_means", meansToJson bucket.means),
     ("consistency", bucket.consistency.toJson)]

def Temperature.toJson (parameters : Temperature) : Json :=
  .ofMembers
    [("temperature", .ofOption .ofFloat parameters.temperature),
     ("top_k", .ofOption .ofNat parameters.topK), ("top_p", .ofOption .ofFloat parameters.topP)]

def TemperatureSetting.toJson (setting : TemperatureSetting) : Json :=
  .ofMembers
    [("label", .ofText setting.label), ("params", setting.parameters.toJson),
     ("consistency", setting.consistency.toJson)]

def TemperatureEffect.toJson (effect : TemperatureEffect) : Json :=
  .ofMembers
    [("correlation", .ofFloat effect.correlation), ("trend", .ofText effect.trend.name)]

def TemperatureComparison.toJson (comparison : TemperatureComparison) : Json :=
  .ofMembers
    [("model", .ofText comparison.model), ("challenge", .ofText comparison.challenge),
     ("prompt", .ofText comparison.prompt),
     ("temperatures", .array (comparison.settings.map TemperatureSetting.toJson)),
     ("best", .ofText comparison.best), ("worst", .ofText comparison.worst),
     ("effect", .ofOption TemperatureEffect.toJson comparison.effect)]

namespace Report

def bodyMembers (report : Report) : List (String × Json) :=
  [("metric_set_version", .ofText report.version), ("summary", report.summary.toJson),
   ("buckets", .array (report.buckets.map BucketSummary.toJson)),
   ("temperature_comparisons",
     .array (report.temperatures.map TemperatureComparison.toJson))]

def toJson (report : Report) : Json :=
  .ofMembers (("generated_at", .ofText report.generatedAt.write) :: report.bodyMembers)

end Report
end Resemblance
