import Resemblance.Artifact
import Resemblance.Delegate
import Resemblance.ShapeScores
import Resemblance.Timestamp
import Resemblance.Validity
import Resemblance.Vocabulary

/-!
Records: the outcome of comparing a candidate with a reference, or of the failure to do so, and the
named metrics that a record contributes to summaries.
-/

namespace Resemblance

inductive DelegateStatus where
  | computed
  | notAvailable
  | skippedInvalidInput
  | failed
  | notRun
  deriving DecidableEq, Repr

namespace DelegateStatus

def all : List DelegateStatus :=
  [computed, notAvailable, skippedInvalidInput, failed, notRun]

def name : DelegateStatus → String
  | computed => "computed"
  | notAvailable => "not_available"
  | skippedInvalidInput => "skipped_invalid_input"
  | failed => "failed"
  | notRun => "not_run"

end DelegateStatus

structure PairValidity where
  reference : Validity
  candidate : Validity
  deriving DecidableEq, Repr

namespace PairValidity

def bothValid (pair : PairValidity) : Bool :=
  pair.reference.isValid && pair.candidate.isValid

/-- The failure of a comparison with an invalid side, which names the reasons of the invalid
sides. -/
def toFailure (pair : PairValidity) : Failure :=
  let reasons :=
    (pair.reference.reason?.map ("reference: " ++ ·)).toList ++
      (pair.candidate.reason?.map ("candidate: " ++ ·)).toList
  .parse languageName ("; ".intercalate reasons) none

end PairValidity

structure RecordError where
  kind : String
  message : String
  deriving DecidableEq, Repr

def RecordError.ofFailure (failure : Failure) : RecordError :=
  ⟨failure.kind, failure.message⟩

/-- The outcome of one comparison. Structure is absent when a side is invalid, and validity when the
pair was never compared. -/
structure Record where
  bleu : Float
  structural : Option ShapeScores
  delegateScores : Option DelegateScores
  delegateStatus : DelegateStatus
  vocabulary : VocabularyScores
  validity : Option PairValidity
  composite : Float
  error : Option RecordError
  computedAt : Timestamp

namespace Record

/-- The record of a pair that could not be compared: zeros, and the failure. -/
def ofFailure (now : Timestamp) (failure : Failure) : Record :=
  { bleu := 0.0
    structural := none
    delegateScores := none
    delegateStatus := .notRun
    vocabulary := ⟨0.0, 0.0, 0.0, 0.0, 0.0⟩
    validity := none
    composite := 0.0
    error := some (.ofFailure failure)
    computedAt := now }

def hasError (record : Record) : Bool :=
  record.error.isSome

def wasCompared (record : Record) : Bool :=
  record.validity.isSome

def structuralSimilarity (record : Record) : Option Float :=
  record.structural.map ShapeScores.similarity

def computedScores (record : Record) : Option DelegateScores :=
  if record.delegateStatus = .computed then record.delegateScores else none

/-- The overlap of identifiers, averaged with the delegate's mean if it gave scores. -/
def semanticSimilarity (record : Record) : Float :=
  match record.computedScores with
  | some scores => (scores.mean + record.vocabulary.identifiers) / 2.0
  | none => record.vocabulary.identifiers

def metrics (record : Record) : List (String × Float) :=
  [("bleu", record.bleu),
   ("composite", record.composite),
   ("jaccard_tokens", record.vocabulary.tokens),
   ("jaccard_words", record.vocabulary.words),
   ("jaccard_identifiers", record.vocabulary.identifiers),
   ("jaccard_keywords", record.vocabulary.keywords),
   ("jaccard_ast_names", record.vocabulary.names),
   ("semantic_similarity", record.semanticSimilarity)] ++
  (match record.structural with
   | none => []
   | some scores =>
      [("node_count_delta", scores.nodeCountDelta),
       ("depth_delta", scores.depthDelta),
       ("histogram_similarity", scores.histogramSimilarity),
       ("histogram_distance", scores.histogramDistance),
       ("subtree_overlap", scores.subtreeOverlap),
       ("structural_similarity", scores.similarity)] ++
      (scores.editSimilarity.map fun value => ("edit_similarity", value)).toList ++
      (scores.weightedEditSimilarity.map fun value =>
        ("weighted_edit_similarity", value)).toList) ++
  (match record.computedScores with
   | none => []
   | some scores =>
      [("delegate_weighted_ngram", scores.weightedNgram),
       ("delegate_syntax_match", scores.syntaxMatch),
       ("delegate_dataflow_match", scores.dataflowMatch),
       ("delegate_mean", scores.mean)])

def sameOption {α : Type} (same : α → α → Bool) : Option α → Option α → Bool
  | none, none => true
  | some a, some b => same a b
  | _, _ => false

def sameShapeScores (a b : ShapeScores) : Bool :=
  a.nodeCountDelta == b.nodeCountDelta && a.depthDelta == b.depthDelta &&
    a.histogramSimilarity == b.histogramSimilarity &&
    a.histogramDistance == b.histogramDistance && a.subtreeOverlap == b.subtreeOverlap &&
    a.editDistance == b.editDistance &&
    sameOption (· == ·) a.editSimilarity b.editSimilarity &&
    a.weightedEditDistance == b.weightedEditDistance &&
    sameOption (· == ·) a.weightedEditSimilarity b.weightedEditSimilarity

def sameDelegateScores (a b : DelegateScores) : Bool :=
  a.weightedNgram == b.weightedNgram && a.syntaxMatch == b.syntaxMatch &&
    a.dataflowMatch == b.dataflowMatch

def sameVocabularyScores (a b : VocabularyScores) : Bool :=
  a.tokens == b.tokens && a.words == b.words && a.identifiers == b.identifiers &&
    a.keywords == b.keywords && a.names == b.names

/-- Whether two records agree in everything but their time. The main scores agree bit by bit. -/
def sameScores (a b : Record) : Bool :=
  a.bleu.toBits == b.bleu.toBits && a.composite.toBits == b.composite.toBits &&
    sameOption sameShapeScores a.structural b.structural &&
    sameOption sameDelegateScores a.delegateScores b.delegateScores &&
    a.delegateStatus == b.delegateStatus && sameVocabularyScores a.vocabulary b.vocabulary &&
    a.validity == b.validity && a.error == b.error

end Record
end Resemblance
