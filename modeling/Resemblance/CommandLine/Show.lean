import Resemblance.Config
import Resemblance.Report
import Resemblance.Run
import Resemblance.Terminal.Table

/-!
What the program shows: the configuration, the outcome of a run, and the summary of an experiment,
line by line.
-/

namespace Resemblance.CommandLine

open Terminal (Cell paint heading table)

def usage : List String :=
  ["Usage: resemblance [-v] COMMAND", "",
   "  compare ROOT               compare all pairs of generated sources below ROOT",
   "    --force-recompute        also those that the cache holds",
   "    --export-visualization   write the report afterwards",
   "    -c, --config FILE        take settings from FILE",
   "    --workers COUNT          compare COUNT pairs at a time",
   "    --timeout-secs COUNT     give up a pair after COUNT seconds",
   "    --delegate-command WORD... let a program give further scores",
   "    -q, --quiet              show nothing",
   "  summary ROOT               show what the cache holds",
   "    -c, --config FILE        take settings from FILE",
   "    --json                   show it as a document",
   "  print-default-config       show the default settings",
   "  validate-config FILE       check the settings in FILE"]

def version : String :=
  "resemblance 0.1.0"

def listedFailures : Nat := 10

def showConfig (config : Config) : List String :=
  let places := fun (x : Float) => Decimal.fixed 2 x
  let weights := config.weights
  let rows :=
    [("BLEU max order", toString config.maxOrder),
     ("Composite weights (bleu/structural/delegate)",
       s!"{places weights.bleu} / {places weights.structural} / {places weights.delegate}"),
     ("Workers", toString config.workers),
     ("Pair timeout", s!"{config.pairTimeout}s"),
     ("Metric set", config.metricVersion),
     ("Delegate",
       (config.command.map fun command => " ".intercalate command).getD "not configured")]
  [heading .brightBlue "Configuration",
   table ["Setting", "Value"] (rows.map fun row => [.plain row.1, .plain row.2]), ""]

def showFailure (failure : PairFailure) : String :=
  let message :=
    match failure.record.error with
    | some error => s!"{error.kind}: {error.message}"
    | none => ""
  s!"  {failure.reference.write} -> {failure.candidate.write}  {paint .dimmed message}"

def showRun (summary : RunSummary) : List String :=
  let rows :=
    [("attempted", summary.attempted), ("cache hits", summary.cacheHits),
     ("computed", summary.computed), ("errors", summary.errors),
     ("cancelled", summary.cancelled)]
  let failures := summary.failures
  let listed :=
    if failures.isEmpty then []
    else
      ["", heading .red "Failed pairs"] ++ (failures.take listedFailures).map showFailure ++
        (if listedFailures < failures.length then
          [s!"  ... and {failures.length - listedFailures} more"]
         else [])
  [heading .brightBlue "Run Summary",
   table ["Pairs", "Count"] (rows.map fun row => [.plain row.1, .plain (toString row.2)])] ++ listed

def showMetrics (statistics : List (String × Statistics Float)) : String :=
  let places := fun (x : Float) => Cell.plain (Decimal.fixed 4 x)
  table ["Metric", "N", "Mean", "Min", "Max", "Std"]
    (statistics.map fun (name, entry) =>
      [.plain name, .plain (toString entry.count), places entry.mean, places entry.least,
       places entry.greatest, places entry.deviation])

def showSummary (summary : Summary) : List String :=
  let listed := fun (texts : List String) => ", ".intercalate texts
  [heading .brightBlue "Experiment Summary",
   s!"  Comparisons:  {summary.comparisons}",
   s!"  With errors:  {summary.errors}",
   s!"  Models:       {listed summary.models}",
   s!"  Challenges:   {listed summary.challenges}",
   s!"  Temperatures: {listed summary.temperatures}", "",
   if summary.statistics.isEmpty then paint .yellow "No cached comparisons found"
   else showMetrics summary.statistics]

def gradeStyle : Grade → Terminal.Style
  | .a => .green
  | .b => .green
  | .c => .yellow
  | .d => .red
  | .f => .red

def showBuckets (buckets : List BucketSummary) : String :=
  let places := fun (x : Float) => Cell.plain (Decimal.fixed 3 x)
  table ["Bucket", "Pairs", "Overall", "Structural", "Semantic", "Grade"]
    (buckets.map fun bucket =>
      let scores := bucket.consistency
      [.plain bucket.key.write, .plain (toString bucket.comparisons), places scores.overall,
       places scores.structural, places scores.semantic,
       ⟨scores.grade.letter, some (gradeStyle scores.grade)⟩])

def showTemperatures (comparison : TemperatureComparison) : List String :=
  let group := s!"{comparison.model}/{comparison.challenge}/{comparison.prompt}"
  let best := paint .green comparison.best
  let worst := paint .red comparison.worst
  [s!"  {group}: best {best}, worst {worst}",
   match comparison.effect with
   | some effect =>
      let correlation := Decimal.fixed 3 effect.correlation
      s!"    r = {correlation}  {paint .dimmed effect.describe}"
   | none => "    " ++ paint .dimmed "not enough parseable temperatures"]

def showConsistency (report : Report) : List String :=
  let temperatures :=
    if report.temperatures.isEmpty then []
    else
      ["", heading .brightBlue "Temperature Effect"] ++
        report.temperatures.flatMap showTemperatures
  if report.buckets.isEmpty then []
  else
    ["", heading .brightBlue "Iteration Consistency", showBuckets report.buckets] ++ temperatures

end Resemblance.CommandLine
