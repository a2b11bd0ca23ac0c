import Resemblance.Bleu
import Resemblance.Config
import Resemblance.Digest
import Resemblance.Grammar
import Resemblance.Record

/-!
The calculator: compares pairs of sources. What a single source needs is analysed once and kept
under the source's fingerprint; the analyses kept never change a result as long as fingerprints tell
sources apart.
-/

namespace Resemblance

structure Calculator where
  grammar : Grammar
  maxOrder : Nat
  weights : Weights Float
  editLimit : Nat
  language : String
  delegate : Option Delegate
  /-- The time put on records. -/
  now : Timestamp
  library : Elementary := .platform
  analyses : List (String × Analysis) := []
  calls : Nat := 0

structure Comparison where
  result : Except String Record
  time : Duration

namespace Calculator

def ofConfig (grammar : Grammar) (now : Timestamp) (config : Config) (delegate : Option Delegate)
    (library : Elementary := .platform) : Calculator :=
  { grammar
    maxOrder := config.maxOrder
    weights := config.weights
    editLimit := config.editLimit
    language := config.language
    delegate
    now
    library }

/-- The analysis kept under a fingerprint; the source is analysed if there is none. -/
def analysis (calculator : Calculator) (fingerprint source : String) : Analysis × Calculator :=
  match calculator.analyses.lookup fingerprint with
  | some analysis => (analysis, calculator)
  | none =>
      let analysis := Analysis.ofSource calculator.grammar calculator.editLimit source
      (analysis, { calculator with analyses := (fingerprint, analysis) :: calculator.analyses })

def clear (calculator : Calculator) : Calculator :=
  { calculator with analyses := [] }

structure DelegatePart where
  scores : Option DelegateScores
  status : DelegateStatus
  error : Option RecordError

def DelegatePart.ofAnswer (name : String) : Except DelegateFailure DelegateScores → DelegatePart
  | .ok scores => ⟨some scores, .computed, none⟩
  | .error failure =>
      ⟨some .zero, .failed, some (.ofFailure (failure.toFailure name))⟩

def DelegatePart.skipped (pair : PairValidity) : DelegatePart :=
  ⟨none, .skippedInvalidInput, some (.ofFailure pair.toFailure)⟩

def record (calculator : Calculator) (reference candidate : String) (a b : Analysis)
    (part : DelegatePart) : Record :=
  let validity : PairValidity := ⟨a.validity, b.validity⟩
  let bleu := Bleu.score calculator.maxOrder reference candidate calculator.library
  let structural :=
    if validity.bothValid then
      match a.profile, b.profile with
      | some a, some b => some (ShapeScores.compare a b)
      | _, _ => none
    else none
  let mean := if part.status = .computed then part.scores.map DelegateScores.mean else none
  { bleu
    structural
    delegateScores := part.scores
    delegateStatus := part.status
    vocabulary := a.vocabulary.compare b.vocabulary
    validity := some validity
    composite :=
      compositeScore calculator.weights bleu (structural.map ShapeScores.similarity) mean
    error := part.error
    computedAt := calculator.now }

def compareWith (calculator : Calculator) (reference referenceFingerprint candidate
    candidateFingerprint : String) : Comparison × Calculator :=
  let (a, calculator) := calculator.analysis referenceFingerprint reference
  let (b, calculator) := calculator.analysis candidateFingerprint candidate
  let pair : PairValidity := ⟨a.validity, b.validity⟩
  let finish := fun (part : DelegatePart) =>
    Except.ok (calculator.record reference candidate a b part)
  if pair.bothValid then
    match calculator.delegate with
    | none => (⟨finish ⟨none, .notAvailable, none⟩, ⟨0⟩⟩, calculator)
    | some delegate =>
        let result :=
          match delegate.ask reference candidate calculator.language with
          | .answered answer => finish (.ofAnswer delegate.name answer)
          | .crashed detail => .error detail
        (⟨result, delegate.time⟩, { calculator with calls := calculator.calls + 1 })
  else (⟨finish (.skipped pair), ⟨0⟩⟩, calculator)

def compare (calculator : Calculator) (reference candidate : String) : Comparison × Calculator :=
  calculator.compareWith reference (Digest.ofText reference) candidate (Digest.ofText candidate)

end Calculator
end Resemblance
