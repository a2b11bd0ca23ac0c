import Resemblance.Decimal.Read
import Resemblance.Json.Shape
import Resemblance.Record

/-!
Records and stored comparisons as JSON documents: the members in their fixed order when written, and
the readers that take them back.
-/

namespace Resemblance

open Json (Slot required optional)

namespace Validity

def toJson : Validity → Json
  | valid => .ofMembers [("status", .ofText "valid")]
  | invalid reason => .ofMembers [("status", .ofText "invalid"), ("reason", .ofText reason)]

def ofStatus? (status : String) (reason : Option (Option Json)) : Option Validity :=
  if status == "valid" then some valid
  else if status == "invalid" then
    reason.bind fun reason => (reason.bind Json.toText?).map invalid
  else none

/-- The levels of arrays and objects that are left for a value inside a validity. A document may
have a hundred and twenty-seven of them, and a validity stands on the fourth. -/
def levelsBelow : Nat := 123

mutual

/-- Whether every text and number of a value can be used and its arrays and objects lie within the
levels that are left, so that it can be set aside and read later. -/
def storable : Nat → Json → Bool
  | _, .text value => value.isSome
  | _, .number value => value.toFloat?.isSome
  | levels, .array items => 0 < levels && storableItems (levels - 1) items
  | levels, .object members => 0 < levels && storableMembers (levels - 1) members
  | _, _ => true

def storableItems : Nat → List Json → Bool
  | _, [] => true
  | levels, item :: rest => storable levels item && storableItems levels rest

def storableMembers : Nat → List (Option String × Json) → Bool
  | _, [] => true
  | levels, (name, value) :: rest =>
      name.isSome && storable levels value && storableMembers levels rest

end

/-- The status stands in a member of its own, before or after the reason; in an array it comes
first. -/
def ofJson? : Json → Option Validity
  | .object members =>
      if storableMembers levelsBelow members then do
        let status ← Json.slotValue members (.named "status")
        let status ← status.bind Json.toText?
        ofStatus? status (Json.slotValue members (.named "reason"))
      else none
  | .array (.text (some "valid") :: []) => some valid
  | .array (.text (some "invalid") :: .text (some reason) :: []) => some (invalid reason)
  | _ => none

end Validity

namespace PairValidity

def toJson (pair : PairValidity) : Json :=
  .ofMembers [("reference", pair.reference.toJson), ("candidate", pair.candidate.toJson)]

def ofJson? (json : Json) : Option PairValidity := do
  match ← json.slots? [.named "reference", .named "candidate"] with
  | [reference, candidate] =>
      some ⟨← required Validity.ofJson? reference, ← required Validity.ofJson? candidate⟩
  | _ => none

end PairValidity

namespace RecordError

def toJson (error : RecordError) : Json :=
  .ofMembers [("kind", .ofText error.kind), ("message", .ofText error.message)]

def ofJson? (json : Json) : Option RecordError := do
  match ← json.slots? [.named "kind", .named "message"] with
  | [kind, message] => some ⟨← required Json.toText? kind, ← required Json.toText? message⟩
  | _ => none

end RecordError

namespace DelegateStatus

/-- A status by its name, alone or as the only member of an object that holds nothing. -/
def ofJson? : Json → Option DelegateStatus
  | .text (some name) => all.find? fun status => status.name == name
  | .object [(some name, .null)] => all.find? fun status => status.name == name
  | _ => none

end DelegateStatus

namespace DelegateScores

def toJson (scores : DelegateScores) : Json :=
  .ofMembers (scores.named.map fun entry => (entry.1, .ofFloat entry.2))

/-- Every score goes by a second name too. -/
def ofJson? (json : Json) : Option DelegateScores := do
  match ← json.slots?
      [{ names := ["weighted_ngram", "weighted_ngram_match_score"] },
       { names := ["syntax_match", "syntax_match_score"] },
       { names := ["dataflow_match", "dataflow_match_score"] }] with
  | [ngram, shape, dataflow] =>
      some ⟨← required Json.toFloat? ngram, ← required Json.toFloat? shape,
        ← required Json.toFloat? dataflow⟩
  | _ => none

end DelegateScores

namespace VocabularyScores

def toJson (scores : VocabularyScores) : Json :=
  .ofMembers
    [("tokens", .ofFloat scores.tokens), ("words", .ofFloat scores.words),
     ("identifiers", .ofFloat scores.identifiers), ("keywords", .ofFloat scores.keywords),
     ("ast_names", .ofFloat scores.names)]

def ofJson? (json : Json) : Option VocabularyScores := do
  match ← json.slots?
      [.named "tokens", .named "words", .named "identifiers", .named "keywords",
       .named "ast_names"] with
  | [tokens, words, identifiers, keywords, names] =>
      some ⟨← required Json.toFloat? tokens, ← required Json.toFloat? words,
        ← required Json.toFloat? identifiers, ← required Json.toFloat? keywords,
        ← required Json.toFloat? names⟩
  | _ => none

end VocabularyScores

namespace ShapeScores

def toJson (scores : ShapeScores) : Json :=
  .ofMembers
    [("node_count_delta", .ofFloat scores.nodeCountDelta),
     ("depth_delta", .ofFloat scores.depthDelta),
     ("histogram_similarity", .ofFloat scores.histogramSimilarity),
     ("histogram_distance", .ofFloat scores.histogramDistance),
     ("subtree_overlap", .ofFloat scores.subtreeOverlap),
     ("edit_distance", .ofOption .ofNat scores.editDistance),
     ("edit_similarity", .ofOption .ofFloat scores.editSimilarity),
     ("weighted_edit_distance", .ofOption .ofNat scores.weightedEditDistance),
     ("weighted_edit_similarity", .ofOption .ofFloat scores.weightedEditSimilarity)]

def ofJson? (json : Json) : Option ShapeScores := do
  match ← json.slots?
      [.named "node_count_delta", .named "depth_delta", .named "histogram_similarity",
       .named "histogram_distance", .named "subtree_overlap", .named "edit_distance",
       .named "edit_similarity", { names := ["weighted_edit_distance"], defaulted := true },
       { names := ["weighted_edit_similarity"], defaulted := true }] with
  | [nodes, depth, similarity, difference, overlap, edit, editSimilarity, weighted,
      weightedSimilarity] =>
      some
        { nodeCountDelta := ← required Json.toFloat? nodes
          depthDelta := ← required Json.toFloat? depth
          histogramSimilarity := ← required Json.toFloat? similarity
          histogramDistance := ← required Json.toFloat? difference
          subtreeOverlap := ← required Json.toFloat? overlap
          editDistance := ← optional (Json.toNat? countBound) edit
          editSimilarity := ← optional Json.toFloat? editSimilarity
          weightedEditDistance := ← optional (Json.toNat? countBound) weighted
          weightedEditSimilarity := ← optional Json.toFloat? weightedSimilarity }
  | _ => none

end ShapeScores

namespace Record

/-- A record without its time. -/
def scoreMembers (record : Record) : List (String × Json) :=
  [("bleu", .ofFloat record.bleu),
   ("structural", .ofOption ShapeScores.toJson record.structural),
   ("delegate_scores", .ofOption DelegateScores.toJson record.delegateScores),
   ("delegate_status", .ofText record.delegateStatus.name),
   ("jaccard", record.vocabulary.toJson),
   ("validity", .ofOption PairValidity.toJson record.validity),
   ("composite", .ofFloat record.composite),
   ("error", .ofOption RecordError.toJson record.error)]

def toJson (record : Record) : Json :=
  .ofMembers (record.scoreMembers ++ [("computed_at", .ofText record.computedAt.write)])

def ofJson? (json : Json) : Option Record := do
  match ← json.slots?
      [.named "bleu", .named "structural", .named "delegate_scores", .named "delegate_status",
       .named "jaccard", .named "validity", .named "composite", .named "error",
       .named "computed_at"] with
  | [bleu, structural, delegateScores, delegateStatus, vocabulary, validity, composite, error,
      computedAt] =>
      some
        { bleu := ← required Json.toFloat? bleu
          structural := ← optional ShapeScores.ofJson? structural
          delegateScores := ← optional DelegateScores.ofJson? delegateScores
          delegateStatus := ← required DelegateStatus.ofJson? delegateStatus
          vocabulary := ← required VocabularyScores.ofJson? vocabulary
          validity := ← optional PairValidity.ofJson? validity
          composite := ← required Json.toFloat? composite
          error := ← optional RecordError.ofJson? error
          computedAt := ← required (fun time => time.toText?.bind Timestamp.read) computedAt }
  | _ => none

end Record

namespace ArtifactId

def toJson (id : ArtifactId) : Json :=
  .ofMembers
    [("challenge", .ofText id.challenge), ("prompt", .ofText id.prompt),
     ("temperature", .ofText id.temperature), ("iteration", .ofNat id.iteration),
     ("model", .ofText id.model)]

/-- Iterations are whole numbers of 32 bits. -/
def ofJson? (json : Json) : Option ArtifactId := do
  match ← json.slots?
      [.named "challenge", .named "prompt", .named "temperature", .named "iteration",
       .named "model"] with
  | [challenge, prompt, temperature, iteration, model] =>
      some ⟨← required Json.toText? challenge, ← required Json.toText? prompt,
        ← required Json.toText? temperature, ← required (Json.toNat? iterationBound) iteration,
        ← required Json.toText? model⟩
  | _ => none

end ArtifactId
end Resemblance
