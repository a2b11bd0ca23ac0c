import Resemblance.Decimal.Layout
import Resemblance.Duration
import Resemblance.Failure

/-!
Delegates: scorers from outside that judge a pair of sources by three scores of their own, or fail.
-/

namespace Resemblance

structure DelegateScores where
  weightedNgram : Float
  syntaxMatch : Float
  dataflowMatch : Float

namespace DelegateScores

/-- What is recorded for a delegate that failed. -/
def zero : DelegateScores :=
  ⟨0.0, 0.0, 0.0⟩

def mean (scores : DelegateScores) : Float :=
  (scores.weightedNgram + scores.syntaxMatch + scores.dataflowMatch) / 3.0

def named (scores : DelegateScores) : List (String × Float) :=
  [("weighted_ngram", scores.weightedNgram), ("syntax_match", scores.syntaxMatch),
   ("dataflow_match", scores.dataflowMatch)]

end DelegateScores

/-- Why a delegate gave no scores. -/
inductive DelegateFailure where
  /-- It could not be started. -/
  | notStarted (cause : String)
  /-- It ended without success. -/
  | exited (status output : String)
  /-- Its answer is not in the agreed form. -/
  | malformed (detail : String)
  /-- A score is no number from zero to one. -/
  | outOfRange (name : String) (value : Float)
  | timedOut (limit : Duration)
  /-- It reported a failure of its own. -/
  | reported (text : String)

namespace DelegateFailure

def message : DelegateFailure → String
  | notStarted cause => s!"failed to run delegate: {cause}"
  | exited status output => s!"delegate exited with {status}: {output}"
  | malformed detail => s!"malformed delegate response: {detail}"
  | outOfRange name value => s!"delegate score {name} out of range: {Decimal.plain value}"
  | timedOut limit => s!"delegate timed out after {limit.write}"
  | reported text => text

def toFailure (name : String) (failure : DelegateFailure) : Failure :=
  .delegate name failure.message

end DelegateFailure

namespace DelegateScores

def inRange (value : Float) : Bool :=
  value.isFinite && 0.0 ≤ value && value ≤ 1.0

def check (scores : DelegateScores) : Except DelegateFailure DelegateScores :=
  match scores.named.find? fun entry => !inRange entry.2 with
  | none => .ok scores
  | some (name, value) => .error (.outOfRange name value)

end DelegateScores

/-- What comes of asking a delegate: an answer, after some time, or a crash. -/
inductive DelegateReply where
  | answered (result : Except DelegateFailure DelegateScores)
  | crashed (detail : String)

/-- A delegate: its name, its reply to reference, candidate and language, and how long it takes. -/
structure Delegate where
  name : String
  ask : String → String → String → DelegateReply
  time : Duration := ⟨0⟩

end Resemblance
