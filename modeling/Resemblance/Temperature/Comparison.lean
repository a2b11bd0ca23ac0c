import Resemblance.Summary
import Resemblance.Temperature
import Resemblance.Temperature.Effect

/-!
The comparison of the temperatures at which one model answered one challenge with one prompt.
-/

namespace Resemblance

structure TemperatureSetting where
  label : String
  parameters : Temperature
  consistency : ConsistencyScores

namespace TemperatureSetting

def ofBucket (bucket : BucketSummary) : TemperatureSetting :=
  ⟨bucket.key.temperature, .ofLabel bucket.key.temperature, bucket.consistency⟩

/-- The first of the settings that none of the others exceeds. -/
def bestOf (first : TemperatureSetting) (rest : List TemperatureSetting) : TemperatureSetting :=
  rest.foldl
    (fun best setting =>
      if setting.consistency.average > best.consistency.average then setting else best)
    first

/-- The first of the settings that exceeds none of the others. -/
def worstOf (first : TemperatureSetting) (rest : List TemperatureSetting) : TemperatureSetting :=
  rest.foldl
    (fun worst setting =>
      if setting.consistency.average < worst.consistency.average then setting else worst)
    first

def point? (setting : TemperatureSetting) : Option (Float × Float) :=
  setting.parameters.temperature.map fun temperature =>
    (temperature, setting.consistency.average)

end TemperatureSetting

/-- The temperatures of one model, challenge and prompt, with the best, the worst, and the effect
where at least two labels have a temperature. -/
structure TemperatureComparison where
  model : String
  challenge : String
  prompt : String
  settings : List TemperatureSetting
  best : String
  worst : String
  effect : Option TemperatureEffect

namespace TemperatureComparison

/-- Compares the temperatures of buckets that have all else in common, if there are at least two. -/
def ofBuckets? : List BucketSummary → Option TemperatureComparison
  | first :: second :: rest =>
      let settings := (first :: second :: rest).map TemperatureSetting.ofBucket
      let start := TemperatureSetting.ofBucket first
      let others := (second :: rest).map TemperatureSetting.ofBucket
      let points := settings.filterMap TemperatureSetting.point?
      some
        { model := first.key.model
          challenge := first.key.challenge
          prompt := first.key.prompt
          settings
          best := (TemperatureSetting.bestOf start others).label
          worst := (TemperatureSetting.worstOf start others).label
          effect :=
            TemperatureEffect.ofPoints? (points.map Prod.fst) (points.map Prod.snd) }
  | _ => none

def group (bucket : BucketSummary) : List String :=
  [bucket.key.model, bucket.key.challenge, bucket.key.prompt]

def ofSummaries (buckets : List BucketSummary) : List TemperatureComparison :=
  (distinct textsLe (buckets.map group)).filterMap fun key =>
    ofBuckets? (buckets.filter fun bucket => group bucket == key)

end TemperatureComparison
end Resemblance
