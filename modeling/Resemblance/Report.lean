import Resemblance.Temperature.Comparison

/-!
The report on an experiment: its summary, its buckets, and the comparison of its temperatures.
-/

namespace Resemblance

structure Report where
  generatedAt : Timestamp
  version : String
  summary : Summary
  buckets : List BucketSummary
  temperatures : List TemperatureComparison

namespace Report

def ofEntries (now : Timestamp) (version : String) (entries : List CacheEntry) : Report :=
  let buckets := BucketSummary.ofEntries entries
  { generatedAt := now
    version
    summary := .ofEntries entries
    buckets
    temperatures := TemperatureComparison.ofSummaries buckets }

end Report
end Resemblance
