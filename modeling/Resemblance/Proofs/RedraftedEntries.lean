import Mathlib.Logic.Relation
import Resemblance.Proofs.Documents
import Resemblance.Proofs.JsonSpacing
import Resemblance.Proofs.RedraftedParts

/-!
Cache documents written anew. Whatever order their members have, whatever unknown members stand
among them, under which of its names a score goes and where white space stands, and if null is left
out where it stands for nothing: the same entry is read.
-/

namespace Resemblance

open Json (Field Keeps Members Redrafted)

namespace CacheEntry

def fields (Fit : Json → Prop) : List Field :=
  [.part (.named "reference") false anything ArtifactId.fields,
   .part (.named "candidate") false anything ArtifactId.fields,
   .plain (.named "reference_fingerprint") false, .plain (.named "candidate_fingerprint") false,
   .plain (.named "metric_set_version") false,
   .part (.named "record") false anything (Record.fields Fit)]

theorem keeps : Keeps (Redrafted anything (fields Validity.Storable)) ofJson? := by
  apply Json.keeps_of_slots (by decide)
  intro values values' entry carried found
  obtain _ | ⟨reference, _ | ⟨candidate, _ | ⟨digest, _ | ⟨digest', _ | ⟨version, carried⟩⟩⟩⟩⟩ :=
    carried
  obtain _ | ⟨record, _ | _⟩ := carried
  simp only [Option.bind_eq_bind, Option.bind_eq_some_iff, Option.some.injEq] at found
  obtain ⟨_, first, _, second, _, third, _, fourth, _, fifth, _, sixth, rfl⟩ := found
  have first' := reference.required rfl ArtifactId.keeps first
  have second' := candidate.required rfl ArtifactId.keeps second
  have third' := digest.required rfl keeps_text third
  have fourth' := digest'.required rfl keeps_text fourth
  have fifth' := version.required rfl keeps_text fifth
  have sixth' := record.required rfl Record.keeps sixth
  simp [first', second', third', fourth', fifth', sixth']

/-- A document written anew: with other white space, or as a text of the value written anew. What is
added to a validity must be fit for it. -/
inductive Redraft (Fit : Json → Prop) : String → String → Prop
  | respaced {text text' : String} (same : Json.Respaced text.toList text'.toList) :
      Redraft Fit text text'
  | redrafted {text text' : String} {json json' : Json} (reads : Json.read text = some json)
      (reads' : Json.read text' = some json')
      (redrafted : Redrafted anything (fields Fit) json json') : Redraft Fit text text'

theorem read_redraft {text text' : String} {entry : CacheEntry}
    (redraft : Redraft Validity.Storable text text') (found : read text = some entry) :
    read text' = some entry := by
  cases redraft with
  | respaced same =>
      rw [read, ← Json.read_respaced same]
      exact found
  | redrafted reads reads' redrafted =>
      rw [read, reads] at found
      rw [read, reads']
      exact keeps redrafted found

theorem read_redrafts {text text' : String} {entry : CacheEntry}
    (redrafts : Relation.ReflTransGen (Redraft Validity.Storable) text text')
    (found : read text = some entry) : read text' = some entry := by
  induction redrafts with
  | refl => exact found
  | tail _ redraft ih => exact read_redraft redraft ih

end CacheEntry

namespace Validity

/-- The status may stand anywhere among the members, also behind the reason. -/
theorem of_json_shuffled {reason : String} {others : List (String × Json)} {members : Members}
    (fit : ∀ member ∈ others, member.1 ∉ ["status", "reason"] ∧ Storable member.2)
    (same : members.Perm ((some "reason", .ofText reason) :: (some "status", .ofText "invalid") ::
      others.map fun member => (some member.1, member.2))) :
    ofJson? (.object members) = some (.invalid reason) := by
  have sorted : ofJson? (.object ((some "reason", .ofText reason) ::
      (some "status", .ofText "invalid") :: others.map fun member => (some member.1, member.2))) =
        some (.invalid reason) := by
    clear same
    induction others with
    | nil => rfl
    | cons member others ih =>
        obtain ⟨⟨unknown, storable⟩, fit⟩ := List.forall_mem_cons.1 fit
        have added : Redrafted Storable fields
            (.object ([(some "reason", .ofText reason), (some "status", .ofText "invalid")] ++
              others.map fun member => (some member.1, member.2)))
            (.object ([(some "reason", .ofText reason), (some "status", .ofText "invalid")] ++
              (some member.1, member.2) :: others.map fun member =>
                  (some member.1, member.2))) := by
          apply Redrafted.added _ storable
          simpa [fields, Field.plain, Json.Slot.named] using unknown
        exact keeps added (ih fit)
  exact keeps (.shuffled (.members same.symm)) sorted

end Validity

/-- What a document of a cache entry says does not depend on how it is written. Whatever the order
of members in any of its objects, whatever members with unknown names stand in the objects of a
structure, under which of its names a score goes and where white space stands, and if null is left
out where it stands for nothing: the same entry is read. Only the members added to a validity must
be such that they can be set aside, since its status may come last. A score that is given under both
of its names is not read. -/
theorem redrafts_hold_the_same_entry :
    (∀ (text text' : String) (entry : CacheEntry), CacheEntry.read text = some entry →
      Relation.ReflTransGen (CacheEntry.Redraft Validity.Storable) text text' →
        CacheEntry.read text' = some entry ∧
          (CacheEntry.read text').map CacheEntry.write = some entry.write ∧
          (CacheEntry.read text').map (fun entry => entry.record.metrics) =
            some entry.record.metrics) ∧
      (∀ (reason : String) (others : List (String × Json)) (members : Members),
        (∀ member ∈ others, member.1 ∉ ["status", "reason"] ∧ Validity.Storable member.2) →
          members.Perm ((some "reason", .ofText reason) :: (some "status", .ofText "invalid") ::
            others.map fun member => (some member.1, member.2)) →
            Validity.ofJson? (.object members) = some (.invalid reason)) ∧
      ∀ field ∈ DelegateScores.fields, ∀ name ∈ field.slot.names, ∀ name' ∈ field.slot.names,
        ∀ (value value' : Json) (members : Members), name ≠ name' → (some name, value) ∈ members →
          (some name', value') ∈ members → DelegateScores.ofJson? (.object members) = none := by
  refine ⟨fun text text' entry found redrafts => ?_,
    fun reason others members fit same => Validity.of_json_shuffled fit same,
    fun field known name named name' named' value value' members differ member member' => ?_⟩
  · have found' := CacheEntry.read_redrafts redrafts found
    rw [found']
    exact ⟨rfl, rfl, rfl⟩
  · have listed : field.slot ∈ DelegateScores.fields.map Field.slot := List.mem_map_of_mem known
    have none := Json.slots_of_doubled listed named named' differ member member'
    exact Option.bind_eq_none_iff.2 fun values found => nomatch none.symm.trans found

/-- A record of which only what is said of the reference is open. -/
def draftedRecord (reference : Validity) : Record :=
  { bleu := 0.0
    structural := none
    delegateScores := none
    delegateStatus := .notAvailable
    vocabulary := ⟨0.0, 0.0, 0.0, 0.0, 0.0⟩
    validity := some ⟨reference, .valid⟩
    composite := 0.0
    error := none
    computedAt := ⟨0, 0⟩ }

def draftedKey : CacheKey :=
  { reference := ⟨"c", "p", "t", 1, "m"⟩
    candidate := ⟨"c", "p", "t", 2, "m"⟩
    referenceFingerprint := "a"
    candidateFingerprint := "b"
    version := "v1" }

def recordDraft (reference : Json) : Json :=
  .ofMembers
    [("bleu", .ofFloat 0.0),
     ("structural", .null),
     ("delegate_scores", .null),
     ("delegate_status", .ofText DelegateStatus.notAvailable.name),
     ("jaccard", VocabularyScores.toJson ⟨0.0, 0.0, 0.0, 0.0, 0.0⟩),
     ("validity", .ofMembers [("reference", reference), ("candidate", Validity.valid.toJson)]),
     ("composite", .ofFloat 0.0),
     ("error", .null),
     ("computed_at", .ofText (Timestamp.write ⟨0, 0⟩))]

def draft (reference : Json) : Json :=
  .ofMembers
    [("reference", draftedKey.reference.toJson),
     ("candidate", draftedKey.candidate.toJson),
     ("reference_fingerprint", .ofText "a"),
     ("candidate_fingerprint", .ofText "b"),
     ("metric_set_version", .ofText "v1"),
     ("record", recordDraft reference)]

theorem of_json_record_draft (reference : Json) :
    Record.ofJson? (recordDraft reference).seen =
      (Validity.ofJson? reference.seen).map draftedRecord := by
  have zero : (0.0 : Float).isFinite = true := rfl
  have written : Timestamp.Written ⟨0, 0⟩ := ⟨.inl (by decide), by decide, by decide⟩
  have time := Timestamp.reads.read _ written
  have vocabulary := VocabularyScores.reads.read ⟨0.0, 0.0, 0.0, 0.0, 0.0⟩
    ⟨zero, zero, zero, zero, zero⟩
  have status := DelegateStatus.reads.read .notAvailable trivial
  have valid := Validity.reads.read .valid trivial
  have pair : PairValidity.ofJson? (Json.ofMembers [("reference", reference),
      ("candidate", Validity.valid.toJson)]).seen =
        (Validity.ofJson? reference.seen).map fun reference => ⟨reference, .valid⟩ := by
    rw [PairValidity.ofJson?, Json.slots_of_seen rfl (by decide)]
    cases found : Validity.ofJson? reference.seen <;> simp [Json.required, found, valid]
  have filled : Json.optional PairValidity.ofJson? (some (Json.ofMembers [("reference", reference),
      ("candidate", Validity.valid.toJson)]).seen) =
        (Validity.ofJson? reference.seen).map fun reference => some ⟨reference, .valid⟩ := by
    have both := congrArg (Option.map some) pair
    rw [Option.map_map] at both
    exact both
  have null {α : Type} (read : Json → Option α) :
      Json.optional read (some Json.null.seen) = some none :=
    rfl
  rw [recordDraft, Record.ofJson?, Json.slots_of_seen rfl (by decide)]
  simp only [List.map_cons, List.map_nil, Json.required, Option.bind_some,
    Json.float_reads.read _ zero, null, status, vocabulary, filled, time, Option.bind_eq_bind]
  cases Validity.ofJson? reference.seen with
  | none => rfl
  | some reference => rfl

theorem of_json_draft (reference : Json) :
    CacheEntry.ofJson? (draft reference).seen =
      (Validity.ofJson? reference.seen).map fun reference =>
        ⟨draftedKey, draftedRecord reference⟩ := by
  have first := ArtifactId.reads.read draftedKey.reference (by decide)
  have second := ArtifactId.reads.read draftedKey.candidate (by decide)
  rw [draft, CacheEntry.ofJson?, Json.slots_of_seen rfl (by decide)]
  simp only [List.map_cons, List.map_nil, Json.required, Option.bind_some, first, second,
    Json.text_reads.read _ trivial, of_json_record_draft, Option.bind_eq_bind]
  cases Validity.ofJson? reference.seen with
  | none => rfl
  | some reference => rfl

theorem redrafted_draft {Fit : Json → Prop} {reference reference' : Json}
    (redrafted : Redrafted Fit Validity.fields reference.seen reference'.seen) :
    Redrafted anything (CacheEntry.fields Fit) (draft reference).seen (draft reference').seen := by
  have pair : Redrafted anything (PairValidity.fields Fit)
      (Json.ofMembers [("reference", reference), ("candidate", Validity.valid.toJson)]).seen
      (Json.ofMembers [("reference", reference'), ("candidate", Validity.valid.toJson)]).seen :=
    .at_place 0 rfl (.head _) (.head _) (.redrafted redrafted)
  have record : Redrafted anything (Record.fields Fit) (recordDraft reference).seen
      (recordDraft reference').seen :=
    .at_place 5 rfl (List.mem_of_getElem? (i := 5) rfl) (.head _) pair
  exact .at_place 5 rfl (List.mem_of_getElem? (i := 5) rfl) (.head _) record

theorem writable_draft {reference : Json} (writable : reference.Writable) :
    (draft reference).Writable := by
  have zero : (0.0 : Float).isFinite = true := rfl
  have vocabulary := VocabularyScores.reads.writable ⟨0.0, 0.0, 0.0, 0.0, 0.0⟩
    ⟨zero, zero, zero, zero, zero⟩
  have first := ArtifactId.reads.writable draftedKey.reference (by decide)
  have second := ArtifactId.reads.writable draftedKey.candidate (by decide)
  have null : Json.null.Writable := trivial
  simp [draft, recordDraft, Json.writable_members, Json.text_reads.writable,
    Json.float_reads.writable, Validity.reads.writable, zero, vocabulary, first, second, null,
    writable]

theorem read_draft {reference : Json} (writable : reference.Writable) :
    CacheEntry.read (draft reference).pretty =
      (Validity.ofJson? reference.seen).map fun reference =>
        ⟨draftedKey, draftedRecord reference⟩ := by
  rw [CacheEntry.read, Json.read_pretty (writable_draft writable), Option.bind_some, of_json_draft]

theorem redraft_draft {Fit : Json → Prop} {reference reference' : Json}
    (writable : reference.Writable)
    (writable' : reference'.Writable)
    (redrafted : Redrafted Fit Validity.fields reference.seen reference'.seen) :
    CacheEntry.Redraft Fit (draft reference).pretty (draft reference').pretty :=
  .redrafted (Json.read_pretty (writable_draft writable))
    (Json.read_pretty (writable_draft writable'))
    (redrafted_draft redrafted)

def notedValid (note : Json) : Json :=
  .ofMembers [("status", .ofText "valid"), ("note", note)]

theorem redrafted_noted {Fit : Json → Prop} {note : Json} (fit : Fit note.seen) :
    Redrafted Fit Validity.fields Validity.valid.toJson.seen (notedValid note).seen :=
  have added : Redrafted Fit Validity.fields (.object ([(some "status", .ofText "valid")] ++ []))
      (.object ([(some "status", .ofText "valid")] ++ (some "note", note.seen) :: [])) :=
    .added (by decide) fit
  added

theorem writable_noted {note : Json} (writable : note.Writable) : (notedValid note).Writable := by
  simp [notedValid, Json.writable_members, Json.text_reads.writable, writable]

/-- With no condition on what is added, a redraft may be rejected: a validity with a note beyond all
doubles cannot be set aside. -/
theorem huge_notes_are_rejected :
    CacheEntry.read (draft Validity.valid.toJson).pretty = some ⟨draftedKey, draftedRecord .valid⟩ ∧
      CacheEntry.Redraft anything (draft Validity.valid.toJson).pretty
        (draft (notedValid (.number ⟨false, ⟨1, 999⟩, false⟩))).pretty ∧
      CacheEntry.read (draft (notedValid (.number ⟨false, ⟨1, 999⟩, false⟩))).pretty = none := by
  have valid := Validity.reads.writable .valid trivial
  have huge : (notedValid (.number ⟨false, ⟨1, 999⟩, false⟩)).Writable := writable_noted nofun
  have rejected : Validity.ofJson? (notedValid (.number ⟨false, ⟨1, 999⟩, false⟩)).seen =
      none := rfl
  refine ⟨?_, redraft_draft valid huge (redrafted_noted trivial), ?_⟩
  · rw [read_draft valid, Validity.reads.read .valid trivial]
    rfl
  · rw [read_draft huge, rejected]
    rfl

/-- An invalid side with its status behind the reason, and other members between them. -/
def statusLast (notes : List (String × Json)) : Json :=
  .ofMembers (("reason", .ofText "r") :: (notes ++ [("status", .ofText "invalid")]))

theorem writable_status_last {notes : List (String × Json)}
    (writable : ∀ note ∈ notes, note.2.Writable) :
    (statusLast notes).Writable := by
  simp only [statusLast, Json.writable_members, List.forall_mem_cons, List.forall_mem_append]
  exact ⟨Json.text_reads.writable _ trivial, writable, Json.text_reads.writable _ trivial, nofun⟩

theorem redrafts_of_invalid :
    Relation.ReflTransGen (CacheEntry.Redraft Validity.Storable)
      (draft (Validity.invalid "r").toJson).pretty
      (" " ++ (draft (statusLast [("note", .array [.null])])).pretty) := by
  have first : (statusLast []).Writable := writable_status_last nofun
  have second : (statusLast [("note", .array [.null])]).Writable :=
    writable_status_last (List.forall_mem_singleton.2 ⟨trivial, trivial⟩)
  have moved : Redrafted Validity.Storable Validity.fields (Validity.invalid "r").toJson.seen
      (statusLast []).seen :=
    .shuffled (.members (.swap _ _ []))
  have noted : Redrafted Validity.Storable Validity.fields
      (.object ([(some "reason", .ofText "r")] ++ [(some "status", .ofText "invalid")]))
      (.object ([(some "reason", .ofText "r")] ++
        (some "note", .array [.null]) :: [(some "status", .ofText "invalid")])) :=
    .added (by decide) rfl
  have blank (text : String) : Json.Respaced text.toList (" " ++ text).toList := by
    rw [String.toList_append, Json.Respaced]
    exact (Json.lexemes_blank rfl).symm
  have once := Relation.ReflTransGen.single
    (redraft_draft (Validity.reads.writable (.invalid "r") trivial) first moved)
  have twice := once.tail (redraft_draft first second noted)
  exact twice.tail (.respaced (blank _))

theorem status_behind_reason_is_read :
    CacheEntry.read (draft (Validity.invalid "r").toJson).pretty =
        some ⟨draftedKey, draftedRecord (.invalid "r")⟩ ∧
      CacheEntry.read (" " ++ (draft (statusLast [("note", .array [.null])])).pretty) =
        some ⟨draftedKey, draftedRecord (.invalid "r")⟩ ∧
      Validity.ofJson? (statusLast [("note", .array [.null])]) = some (.invalid "r") ∧
      DelegateScores.ofJson? (.ofMembers [("syntax_match", .null), ("syntax_match_score", .null)]) =
        none := by
  have read : CacheEntry.read (draft (Validity.invalid "r").toJson).pretty =
      some ⟨draftedKey, draftedRecord (.invalid "r")⟩ := by
    rw [read_draft (Validity.reads.writable _ trivial), Validity.reads.read (.invalid "r") trivial]
    rfl
  have fit : ∀ member ∈ [("note", Json.array [.null])],
      member.1 ∉ ["status", "reason"] ∧ Validity.Storable member.2 :=
    List.forall_mem_singleton.2 ⟨by decide, rfl⟩
  have moved := List.Perm.cons (some "reason", Json.ofText "r")
    (List.Perm.swap (some "status", Json.ofText "invalid") (some "note", .array [.null]) [])
  have doubled := redrafts_hold_the_same_entry.2.2 _ (.tail _ (.head _)) "syntax_match" (.head _)
    "syntax_match_score" (.tail _ (.head _)) .null .null
    [(some "syntax_match", .null), (some "syntax_match_score", .null)] (by decide) (.head _)
    (.tail _ (.head _))
  exact ⟨read, (redrafts_hold_the_same_entry.1 _ _ _ read redrafts_of_invalid).1,
    redrafts_hold_the_same_entry.2.1 "r" _ _ fit moved, doubled⟩

end Resemblance
