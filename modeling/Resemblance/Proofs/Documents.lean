import Resemblance.Cache.Entry
import Resemblance.Proofs.DoubleBits
import Resemblance.Proofs.JsonText
import Resemblance.Proofs.TimestampText

/-!
Documents read back. For every structure that is written as JSON, what is read from its written form
is the structure itself, as long as its numbers are in the ranges they are read in.
-/

namespace Resemblance

namespace Json

/-- A way to write values and a way to read them that belong together: the values that satisfy a
condition read back from what is seen of their written form. -/
structure Reads {α : Type} (write : α → Json) (read : Json → Option α) (sound : α → Prop) :
    Prop where
  writable : ∀ x, sound x → (write x).Writable
  read : ∀ x, sound x → read (write x).seen = some x
  filled : ∀ x, sound x → (write x).seen ≠ .null

section Values

variable {α : Type} {write : α → Json} {read : Json → Option α} {sound : α → Prop}

theorem text_reads : Reads ofText toText? fun _ => True where
  writable _ _ := rfl
  read _ _ := rfl
  filled _ _ := nofun

theorem seen_whole (n : Nat) : (ofNat n).seen = ofNat n := by
  have back := JsonNumber.reads_seen (.ofNat n) fun _ => rfl
  rw [ofNat, seen, back.whole rfl]

theorem nat_reads (bound : Nat) : Reads ofNat (toNat? bound) (· < bound) where
  writable _ _ := fun _ => rfl
  read n small := by
    rw [seen_whole]
    simp [ofNat, toNat?, JsonNumber.ofNat, JsonNumber.toNat?, small]
  filled n _ := by
    rw [seen_whole]
    exact nofun

theorem float_reads : Reads ofFloat toFloat? fun x => x.isFinite = true where
  writable x finite := by
    rw [ofFloat, if_pos finite]
    exact nofun
  read x finite := by
    have back := JsonNumber.reads_seen (.ofFloat x) nofun
    rw [ofFloat, if_pos finite, seen, toFloat?, JsonNumber.toFloat?, back.negative]
    exact Decimal.shortest_to_float finite back.value
  filled x finite := by
    rw [ofFloat, if_pos finite]
    exact nofun

theorem Reads.option_writable (reads : Reads write read sound) (value : Option α)
    (each : ∀ x ∈ value, sound x) : (ofOption write value).Writable := by
  cases value with
  | none => trivial
  | some x => exact reads.writable x (each x rfl)

theorem Reads.option_read (reads : Reads write read sound) (value : Option α)
    (each : ∀ x ∈ value, sound x) : toOption? read (ofOption write value).seen = some value := by
  cases value with
  | none => rfl
  | some x =>
      have filled := reads.filled x (each x rfl)
      have found := reads.read x (each x rfl)
      rw [ofOption, toOption?.eq_def]
      split
      · contradiction
      · rw [found, Option.map_some]

def Ensures (read : Json → Option α) (sound : α → Prop) : Prop :=
  ∀ json x, read json = some x → sound x

theorem Ensures.required (ensures : Ensures read sound) {value : Option Json} {x : α}
    (found : required read value = some x) : sound x := by
  obtain ⟨json, -, found⟩ := Option.bind_eq_some_iff.1 found
  exact ensures json x found

theorem Ensures.optional (ensures : Ensures read sound) {value : Option Json} {held : Option α}
    (found : optional read value = some held) : ∀ x ∈ held, sound x := by
  intro x here
  obtain rfl := here
  cases value with
  | none => exact nomatch found
  | some json =>
      rw [Json.optional, toOption?.eq_def] at found
      split at found
      · exact nomatch found
      · obtain ⟨x', read, same⟩ := Option.map_eq_some_iff.1 found
        obtain rfl := Option.some.inj same
        exact ensures json x' read

theorem nat_ensures (bound : Nat) : Ensures (toNat? bound) (· < bound) := by
  intro json n found
  cases json with
  | number value =>
      obtain ⟨-, small⟩ := Option.filter_eq_some_iff.1 found
      exact of_decide_eq_true small
  | _ => exact nomatch found

theorem float_ensures : Ensures toFloat? fun x => x.isFinite = true := by
  intro json x found
  cases json with
  | number value => exact Decimal.to_float_finite found
  | _ => exact nomatch found

end Values

section Members

variable {members : List (String × Json)}

theorem writable_members :
    (ofMembers members).Writable ↔ ∀ member ∈ members, member.2.Writable := by
  show WritableMembers _ ↔ _
  induction members with
  | nil => simp [WritableMembers]
  | cons member members ih =>
      rw [List.map_cons, WritableMembers, ih, List.forall_mem_cons]
      simp

theorem seen_members :
    (ofMembers members).seen = ofMembers (members.map fun member => (member.1, member.2.seen)) := by
  have each : seenMembers (members.map fun member => (some member.1, member.2)) =
      (members.map fun member => (member.1, member.2.seen)).map fun member =>
        (some member.1, member.2) := by
    induction members with
    | nil => rfl
    | cons member members ih => rw [List.map_cons, seenMembers, ih]; rfl
  rw [ofMembers, seen, each]
  rfl

def Slot.name (slot : Slot) : String :=
  slot.names.headD ""

/-- Of the names of all slots, every slot accepts its own and no other. -/
def Apart (slots : List Slot) : Prop :=
  (slots.map fun slot => (slots.map Slot.name).filter slot.names.contains) =
      slots.map (fun slot => [slot.name]) ∧
    (slots.map Slot.name).Nodup

instance (slots : List Slot) : Decidable (Apart slots) :=
  inferInstanceAs (Decidable (_ ∧ _))

theorem slot_value_of_member {member : String × Json} {slot : Slot}
    (distinct : (members.map Prod.fst).Nodup) (listed : member ∈ members)
    (only : (members.map Prod.fst).filter slot.names.contains = [member.1]) :
    slotValue (members.map fun member => (some member.1, member.2)) slot =
      some (some member.2) := by
  have named : valuesNamed slot.names (members.map fun member => (some member.1, member.2)) =
      (members.filter fun member => slot.names.contains member.1).map Prod.snd := by
    rw [valuesNamed, List.filter_map, List.map_map]
    rfl
  rw [List.filter_map] at only
  obtain ⟨found, filtered, name⟩ := List.map_eq_singleton_iff.1 only
  have there : found ∈ members :=
    List.mem_of_mem_filter (filtered ▸ List.mem_singleton_self found)
  obtain rfl : found = member := List.inj_on_of_nodup_map distinct there listed name
  have single : (members.filter fun member => slot.names.contains member.1) = [found] := filtered
  rw [slotValue, named, single]
  rfl

theorem slot_values_of_part (distinct : (members.map Prod.fst).Nodup) {slots : List Slot}
    {part : List (String × Json)} (within : ∀ member ∈ part, member ∈ members)
    (found : (slots.map fun slot => (members.map Prod.fst).filter slot.names.contains) =
      part.map fun member => [member.1]) :
    slots.mapM (slotValue (members.map fun member => (some member.1, member.2))) =
      some (part.map fun member => some member.2) := by
  induction slots generalizing part with
  | nil =>
      obtain rfl := List.map_eq_nil_iff.1 found.symm
      rfl
  | cons slot slots ih =>
      cases part with
      | nil => simp at found
      | cons member part =>
          obtain ⟨only, others⟩ := List.cons.inj found
          have rest := ih (fun other listed => within other (.tail _ listed)) others
          rw [List.mapM_cons, slot_value_of_member distinct (within member List.mem_cons_self) only,
            rest]
          rfl

/-- Members that were written in the order of the slots are found in them. -/
theorem slots_of_members {slots : List Slot} (named : members.map Prod.fst = slots.map Slot.name)
    (apart : Apart slots) :
    (ofMembers members).slots? slots = some (members.map fun member => some member.2) := by
  obtain ⟨found, distinct⟩ := apart
  rw [← named] at found distinct
  have single : slots.map (fun slot => [slot.name]) = members.map fun member => [member.1] := by
    have lists := congrArg (List.map fun name => [name]) named
    rw [List.map_map, List.map_map] at lists
    exact lists.symm
  rw [ofMembers, slots?, if_pos (by simp)]
  exact slot_values_of_part distinct (fun _ listed => listed) (found.trans single)

theorem slots_of_seen {slots : List Slot} (named : members.map Prod.fst = slots.map Slot.name)
    (apart : Apart slots) :
    (ofMembers members).seen.slots? slots =
      some (members.map fun member => some member.2.seen) := by
  rw [seen_members, slots_of_members (by rw [List.map_map]; exact named) apart, List.map_map]
  rfl

end Members
end Json

namespace Validity

theorem reads : Json.Reads toJson ofJson? fun _ => True where
  writable validity _ := by
    cases validity with
    | valid => simp [toJson, Json.writable_members, Json.ofText, Json.Writable]
    | invalid reason => simp [toJson, Json.writable_members, Json.ofText, Json.Writable]
  read validity _ := by
    cases validity with
    | valid => decide
    | invalid reason => rfl
  filled validity _ := by
    cases validity with
    | valid => exact nofun
    | invalid reason => exact nofun

end Validity

namespace PairValidity

theorem reads : Json.Reads toJson ofJson? fun _ => True where
  writable pair _ := by
    simp [toJson, Json.writable_members, Validity.reads.writable]
  read pair _ := by
    rw [toJson, ofJson?, Json.slots_of_seen rfl (by decide)]
    simp [Json.required, Validity.reads.read]
  filled pair _ := nofun

end PairValidity

namespace RecordError

theorem reads : Json.Reads toJson ofJson? fun _ => True where
  writable error _ := by
    simp [toJson, Json.writable_members, Json.text_reads.writable]
  read error _ := by
    rw [toJson, ofJson?, Json.slots_of_seen rfl (by decide)]
    simp [Json.required, Json.text_reads.read]
  filled error _ := nofun

end RecordError

namespace DelegateStatus

theorem reads : Json.Reads (fun status => .ofText status.name) ofJson? fun _ => True where
  writable status _ := rfl
  read status _ := by
    cases status <;> rfl
  filled status _ := nofun

end DelegateStatus

namespace DelegateScores

/-- All scores are finite numbers. -/
structure Finite (scores : DelegateScores) : Prop where
  weightedNgram : scores.weightedNgram.isFinite = true
  syntaxMatch : scores.syntaxMatch.isFinite = true
  dataflowMatch : scores.dataflowMatch.isFinite = true

theorem reads : Json.Reads toJson ofJson? Finite where
  writable scores finite := by
    simp [toJson, named, Json.writable_members, Json.float_reads.writable, finite.weightedNgram,
      finite.syntaxMatch, finite.dataflowMatch]
  read scores finite := by
    rw [toJson, ofJson?, Json.slots_of_seen rfl (by decide)]
    simp [named, Json.required, Json.float_reads.read, finite.weightedNgram, finite.syntaxMatch,
      finite.dataflowMatch]
  filled scores _ := nofun

theorem ensures : Json.Ensures ofJson? Finite := by
  intro json scores found
  obtain ⟨values, -, found⟩ := Option.bind_eq_some_iff.1 found
  split at found
  · simp only [Option.bind_eq_bind, Option.bind_eq_some_iff, Option.some.injEq] at found
    obtain ⟨_, ngram, _, shape, _, dataflow, rfl⟩ := found
    have finite := Json.float_ensures
    exact ⟨finite.required ngram, finite.required shape, finite.required dataflow⟩
  · exact nomatch found

end DelegateScores

namespace VocabularyScores

/-- All scores are finite numbers. -/
structure Finite (scores : VocabularyScores) : Prop where
  tokens : scores.tokens.isFinite = true
  words : scores.words.isFinite = true
  identifiers : scores.identifiers.isFinite = true
  keywords : scores.keywords.isFinite = true
  names : scores.names.isFinite = true

theorem reads : Json.Reads toJson ofJson? Finite where
  writable scores finite := by
    simp [toJson, Json.writable_members, Json.float_reads.writable, finite.tokens, finite.words,
      finite.identifiers, finite.keywords, finite.names]
  read scores finite := by
    rw [toJson, ofJson?, Json.slots_of_seen rfl (by decide)]
    simp [Json.required, Json.float_reads.read, finite.tokens, finite.words,
      finite.identifiers, finite.keywords, finite.names]
  filled scores _ := nofun

theorem ensures : Json.Ensures ofJson? Finite := by
  intro json scores found
  obtain ⟨values, -, found⟩ := Option.bind_eq_some_iff.1 found
  split at found
  · simp only [Option.bind_eq_bind, Option.bind_eq_some_iff, Option.some.injEq] at found
    obtain ⟨_, tokens, _, words, _, identifiers, _, keywords, _, names, rfl⟩ := found
    have finite := Json.float_ensures
    exact ⟨finite.required tokens, finite.required words, finite.required identifiers,
      finite.required keywords, finite.required names⟩
  · exact nomatch found

end VocabularyScores

namespace ShapeScores

/-- All scores are finite numbers, and the distances are counts of 64 bits. -/
structure Finite (scores : ShapeScores) : Prop where
  nodeCountDelta : scores.nodeCountDelta.isFinite = true
  depthDelta : scores.depthDelta.isFinite = true
  histogramSimilarity : scores.histogramSimilarity.isFinite = true
  histogramDistance : scores.histogramDistance.isFinite = true
  subtreeOverlap : scores.subtreeOverlap.isFinite = true
  editDistance : ∀ distance ∈ scores.editDistance, distance < countBound
  editSimilarity : ∀ similarity ∈ scores.editSimilarity, similarity.isFinite = true
  weightedEditDistance : ∀ distance ∈ scores.weightedEditDistance, distance < countBound
  weightedEditSimilarity : ∀ similarity ∈ scores.weightedEditSimilarity, similarity.isFinite = true

theorem reads : Json.Reads toJson ofJson? Finite where
  writable scores finite := by
    have counts := (Json.nat_reads countBound).option_writable _ finite.editDistance
    have weights := (Json.nat_reads countBound).option_writable _ finite.weightedEditDistance
    have plain := Json.float_reads.option_writable _ finite.editSimilarity
    have weighted := Json.float_reads.option_writable _ finite.weightedEditSimilarity
    simp [toJson, Json.writable_members, Json.float_reads.writable, finite.nodeCountDelta,
      finite.depthDelta, finite.histogramSimilarity, finite.histogramDistance,
      finite.subtreeOverlap, counts, weights, plain, weighted]
  read scores finite := by
    have counts := (Json.nat_reads countBound).option_read _ finite.editDistance
    have weights := (Json.nat_reads countBound).option_read _ finite.weightedEditDistance
    have plain := Json.float_reads.option_read _ finite.editSimilarity
    have weighted := Json.float_reads.option_read _ finite.weightedEditSimilarity
    rw [toJson, ofJson?, Json.slots_of_seen rfl (by decide)]
    simp [Json.required, Json.optional, Json.float_reads.read, finite.nodeCountDelta,
      finite.depthDelta, finite.histogramSimilarity, finite.histogramDistance,
      finite.subtreeOverlap, counts, weights, plain, weighted]
  filled scores _ := nofun

theorem ensures : Json.Ensures ofJson? Finite := by
  intro json scores found
  obtain ⟨values, -, found⟩ := Option.bind_eq_some_iff.1 found
  split at found
  · simp only [Option.bind_eq_bind, Option.bind_eq_some_iff, Option.some.injEq] at found
    obtain ⟨_, nodes, _, depth, _, similarity, _, difference, _, overlap, _, edit, _,
      editSimilarity, _, weighted, _, weightedSimilarity, rfl⟩ := found
    have finite := Json.float_ensures
    have counts := Json.nat_ensures countBound
    exact ⟨finite.required nodes, finite.required depth, finite.required similarity,
      finite.required difference, finite.required overlap, counts.optional edit,
      finite.optional editSimilarity, counts.optional weighted, finite.optional weightedSimilarity⟩
  · exact nomatch found

end ShapeScores

namespace Timestamp

/-- Timestamps that are read as they are written: those of the years that are read at all. -/
structure Written (time : Timestamp) : Prop where
  exact : time.Exact
  low : -262143 ≤ time.year
  high : time.year ≤ 262142

theorem reads : Json.Reads (fun time => .ofText time.write)
    (fun time => time.toText?.bind Timestamp.read) Written where
  writable time _ := rfl
  read time written := by
    rw [Json.text_reads.read _ trivial, Option.bind_some,
      read_write written.exact written.low written.high]
  filled time _ := nofun

end Timestamp

namespace Record

/-- All numbers of a record can be written: scores are finite, distances of 64 bits, and the time
lies in a year that is read. -/
structure Writable (record : Record) : Prop where
  bleu : record.bleu.isFinite = true
  structural : ∀ scores ∈ record.structural, scores.Finite
  delegateScores : ∀ scores ∈ record.delegateScores, scores.Finite
  vocabulary : record.vocabulary.Finite
  composite : record.composite.isFinite = true
  computedAt : record.computedAt.Written

theorem reads : Json.Reads toJson ofJson? Writable where
  writable record sound := by
    have structural := ShapeScores.reads.option_writable _ sound.structural
    have scores := DelegateScores.reads.option_writable _ sound.delegateScores
    have validity := PairValidity.reads.option_writable record.validity fun _ _ => trivial
    have error := RecordError.reads.option_writable record.error fun _ _ => trivial
    simp [toJson, scoreMembers, Json.writable_members, Json.float_reads.writable,
      Json.text_reads.writable, sound.bleu, structural, scores,
      VocabularyScores.reads.writable _ sound.vocabulary, validity, sound.composite, error]
  read record sound := by
    have structural := ShapeScores.reads.option_read _ sound.structural
    have scores := DelegateScores.reads.option_read _ sound.delegateScores
    have validity := PairValidity.reads.option_read record.validity fun _ _ => trivial
    have error := RecordError.reads.option_read record.error fun _ _ => trivial
    have time := Timestamp.reads.read _ sound.computedAt
    rw [toJson, ofJson?, Json.slots_of_seen rfl (by decide)]
    simp [scoreMembers, Json.required, Json.optional, Json.float_reads.read, sound.bleu, structural,
      scores, DelegateStatus.reads.read, VocabularyScores.reads.read _ sound.vocabulary, validity,
      sound.composite, error, time]
  filled record _ := nofun

theorem of_failure_writable {now : Timestamp} (written : now.Written) (failure : Failure) :
    (ofFailure now failure).Writable :=
  have zero : (0.0 : Float).isFinite = true := rfl
  ⟨zero, nofun, nofun, ⟨zero, zero, zero, zero, zero⟩, zero, written⟩

theorem ensures : Json.Ensures ofJson? Writable := by
  intro json record found
  obtain ⟨values, -, found⟩ := Option.bind_eq_some_iff.1 found
  split at found
  · simp only [Option.bind_eq_bind, Option.bind_eq_some_iff, Option.some.injEq] at found
    obtain ⟨_, bleu, _, structural, _, scores, _, -, _, vocabulary, _, -, _, composite, _, -, time,
      computedAt, rfl⟩ := found
    have finite := Json.float_ensures
    obtain ⟨_, -, computedAt⟩ := Option.bind_eq_some_iff.1 computedAt
    obtain ⟨_, -, computedAt⟩ := Option.bind_eq_some_iff.1 computedAt
    obtain ⟨exact, dates⟩ := Timestamp.exact_of_read computedAt
    obtain ⟨low, high⟩ := Timestamp.has_dates_iff.1 dates
    exact ⟨finite.required bleu, ShapeScores.ensures.optional structural,
      DelegateScores.ensures.optional scores, VocabularyScores.ensures.required vocabulary,
      finite.required composite, exact, low, high⟩
  · exact nomatch found

end Record

namespace ArtifactId

theorem reads : Json.Reads toJson ofJson? fun id => id.iteration < iterationBound where
  writable id small := by
    simp [toJson, Json.writable_members, Json.text_reads.writable,
      (Json.nat_reads iterationBound).writable _ small]
  read id small := by
    have iteration := (Json.nat_reads iterationBound).read _ small
    rw [toJson, ofJson?, Json.slots_of_seen rfl (by decide)]
    simp [Json.required, Json.text_reads.read, iteration]
  filled id _ := nofun

theorem ensures : Json.Ensures ofJson? fun id => id.iteration < iterationBound := by
  intro json id found
  obtain ⟨values, -, found⟩ := Option.bind_eq_some_iff.1 found
  split at found
  · simp only [Option.bind_eq_bind, Option.bind_eq_some_iff, Option.some.injEq] at found
    obtain ⟨_, -, _, -, _, -, _, iteration, _, -, rfl⟩ := found
    exact (Json.nat_ensures iterationBound).required iteration
  · exact nomatch found

end ArtifactId

namespace CacheEntry

/-- All numbers of an entry can be written: iterations are of 32 bits, and those of the record as it
says. -/
structure Writable (entry : CacheEntry) : Prop where
  reference : entry.key.reference.iteration < iterationBound
  candidate : entry.key.candidate.iteration < iterationBound
  record : entry.record.Writable

theorem reads : Json.Reads toJson ofJson? Writable where
  writable entry sound := by
    simp [toJson, Json.writable_members, Json.text_reads.writable,
      ArtifactId.reads.writable _ sound.reference, ArtifactId.reads.writable _ sound.candidate,
      Record.reads.writable _ sound.record]
  read entry sound := by
    rw [toJson, ofJson?, Json.slots_of_seen rfl (by decide)]
    simp [Json.required, Json.text_reads.read, ArtifactId.reads.read _ sound.reference,
      ArtifactId.reads.read _ sound.candidate, Record.reads.read _ sound.record]
  filled entry _ := nofun

/-- A written entry reads back as the entry. -/
theorem read_write {entry : CacheEntry} (writable : entry.Writable) :
    read entry.write = some entry := by
  rw [read, write, Json.read_pretty (reads.writable entry writable), Option.bind_some,
    reads.read entry writable]

theorem writable_of_read {text : String} {entry : CacheEntry} (found : read text = some entry) :
    entry.Writable := by
  obtain ⟨json, -, found⟩ := Option.bind_eq_some_iff.1 found
  obtain ⟨values, -, found⟩ := Option.bind_eq_some_iff.1 found
  split at found
  · simp only [Option.bind_eq_bind, Option.bind_eq_some_iff, Option.some.injEq] at found
    obtain ⟨_, reference, _, candidate, _, -, _, -, _, -, _, record, rfl⟩ := found
    exact ⟨ArtifactId.ensures.required reference, ArtifactId.ensures.required candidate,
      Record.ensures.required record⟩
  · exact nomatch found

end CacheEntry

/-- An entry whose numbers can be written is read back as it was, its doubles bit by bit. So
whatever was read once, with a year of four digits or any other that can be read, is neither changed
by writing and reading it again, nor is its written form. -/
theorem stored_entries_read_back :
    (∀ entry : CacheEntry, entry.Writable → CacheEntry.read entry.write = some entry) ∧
      ∀ (text : String) (entry : CacheEntry), CacheEntry.read text = some entry →
        -262143 ≤ entry.record.computedAt.year → entry.record.computedAt.year ≤ 262142 →
          CacheEntry.read entry.write = some entry ∧
            (CacheEntry.read entry.write).map CacheEntry.write = some entry.write := by
  refine ⟨fun entry writable => CacheEntry.read_write writable, fun text entry found _ _ => ?_⟩
  have again := CacheEntry.read_write (CacheEntry.writable_of_read found)
  refine ⟨again, ?_⟩
  rw [again, Option.map_some]

/-- An entry with the least positive double, the greatest counts, a negative zero, a time before
1970 and a reason full of characters that are escaped. -/
def extremeEntry : CacheEntry :=
  { key :=
      { reference := ⟨"one/two", "p", "temp_0.5", 4294967295, "m"⟩
        candidate := ⟨"one/two", "p", "temp_0.5", 0, "m"⟩
        referenceFingerprint := "a"
        candidateFingerprint := unreadableFingerprint
        version := "v1" }
    record :=
      { bleu := Float.ofBits 1
        structural := some
          { nodeCountDelta := Float.ofBits 0x8000000000000000
            depthDelta := Float.ofBits 0x3fb999999999999a
            histogramSimilarity := Float.ofBits 0x3ff0000000000000
            histogramDistance := Float.ofBits 0
            subtreeOverlap := Float.ofBits 0x7fefffffffffffff
            editDistance := some 18446744073709551615
            editSimilarity := some (Float.ofBits 0x3fd5555555555555)
            weightedEditDistance := none
            weightedEditSimilarity := none }
        delegateScores := none
        delegateStatus := .skippedInvalidInput
        vocabulary :=
          ⟨Float.ofBits 0, Float.ofBits 0, Float.ofBits 0, Float.ofBits 0, Float.ofBits 0⟩
        validity := some ⟨.valid, .invalid "a \"quoted\" \\ back\tslash, a line\nbreak and π"⟩
        composite := Float.ofBits 0x3ff0000000000000
        error := some ⟨"ParseError", ""⟩
        computedAt := ⟨-1, 999999999⟩ } }

theorem extreme_entry_reads_back :
    extremeEntry.Writable ∧ CacheEntry.read extremeEntry.write = some extremeEntry ∧
      (CacheEntry.read extremeEntry.write).map CacheEntry.write = some extremeEntry.write := by
  have written : extremeEntry.record.computedAt.Written :=
    ⟨.inl (by decide), by decide, by decide⟩
  have finite (bits : UInt64) (inside : bits.toNat / 2 ^ 52 % 2 ^ 11 ≠ 2047) :=
    float_of_bits_finite bits inside
  have only {α : Type} {P : α → Prop} {x : α} (holds : P x) : ∀ y ∈ some x, P y :=
    fun _ here => Option.some.inj here ▸ holds
  have writable : extremeEntry.Writable :=
    { reference := by decide
      candidate := by decide
      record :=
        { bleu := finite _ (by decide)
          structural := only
            ⟨finite _ (by decide), finite _ (by decide), finite _ (by decide),
              finite _ (by decide), finite _ (by decide), only (by decide),
              only (finite _ (by decide)), nofun, nofun⟩
          delegateScores := nofun
          vocabulary := ⟨finite _ (by decide), finite _ (by decide), finite _ (by decide),
            finite _ (by decide), finite _ (by decide)⟩
          composite := finite _ (by decide)
          computedAt := written } }
  have once := stored_entries_read_back.1 extremeEntry writable
  exact ⟨writable, once,
    (stored_entries_read_back.2 _ extremeEntry once written.low written.high).2⟩

end Resemblance
