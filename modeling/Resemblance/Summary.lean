import Resemblance.Cache.Entry
import Resemblance.Consistency

/-!
Summaries of the entries of a cache: over the whole experiment, and bucket by bucket. A metric is
taken over the entries that carry it; pairs that were never compared carry none.
-/

namespace Resemblance

def metricValues (records : List Record) : List (String × Float) :=
  (records.filter Record.wasCompared).flatMap Record.metrics

section Named

variable {α : Type}

def valuesOf (name : String) (values : List (String × α)) : List α :=
  (values.filter fun value => value.1 == name).map Prod.snd

def statisticsOf [Scalar α] (values : List (String × α)) : List (String × Statistics α) :=
  (distinct textLe (values.map Prod.fst)).filterMap fun name =>
    (Statistics.ofValues? (valuesOf name values)).map fun statistics => (name, statistics)

def meansOf (statistics : List (String × Statistics α)) : List (String × α) :=
  statistics.map fun entry => (entry.1, entry.2.mean)

end Named

def metricStatistics (records : List Record) : List (String × Statistics Float) :=
  statisticsOf (metricValues records)

/-- What an experiment holds: its entries, those with an error, the models, challenges and
temperatures of the references, and the statistics of the metrics. -/
structure Summary where
  comparisons : Nat
  errors : Nat
  models : List String
  challenges : List String
  temperatures : List String
  statistics : List (String × Statistics Float)

namespace Summary

def ofEntries (entries : List CacheEntry) : Summary :=
  let references := entries.map fun entry => entry.key.reference
  let records := entries.map CacheEntry.record
  { comparisons := entries.length
    errors := (records.filter Record.hasError).length
    models := distinct textLe (references.map ArtifactId.model)
    challenges := distinct textLe (references.map ArtifactId.challenge)
    temperatures := distinct textLe (references.map ArtifactId.temperature)
    statistics := metricStatistics records }

def means (summary : Summary) : List (String × Float) :=
  meansOf summary.statistics

end Summary

structure BucketSummary where
  key : BucketKey
  comparisons : Nat
  means : List (String × Float)
  consistency : ConsistencyScores

namespace BucketSummary

def ofRecords (key : BucketKey) (records : List Record) : BucketSummary :=
  { key
    comparisons := records.length
    means := meansOf (metricStatistics records)
    consistency := .ofRecords records }

/-- The summaries of all buckets of a list of entries, in the order of their keys. An entry belongs
to the bucket of its reference. -/
def ofEntries (entries : List CacheEntry) : List BucketSummary :=
  (distinct BucketKey.le (entries.map fun entry => entry.key.reference.bucket)).map fun key =>
    ofRecords key
      ((entries.filter fun entry => entry.key.reference.bucket == key).map CacheEntry.record)

end BucketSummary
end Resemblance
