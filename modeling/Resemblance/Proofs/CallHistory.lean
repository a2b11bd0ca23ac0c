import Resemblance.Artifact.Source
import Resemblance.Proofs.Analyses

/-!
Calculators in use. Whatever was compared before, and however often the analyses were dropped, the
rules stay the same, and an analysis is kept at most once, under the fingerprint of a text that was
compared.
-/

namespace Resemblance.Calculator

/-- A call on a calculator: a comparison of two texts or of two artifacts, or the dropping of all
analyses. -/
inductive Use where
  | sources (reference candidate : String)
  | artifacts (reference candidate : ArtifactId × String)
  | clear

namespace Use

def texts : Use → List String
  | sources reference candidate => [reference, candidate]
  | artifacts reference candidate => [reference.2, candidate.2]
  | clear => []

end Use

def atTime (calculator : Calculator) (now : Timestamp) : Calculator :=
  { calculator with now }

def perform (calculator : Calculator) : Use → Option Comparison × Calculator
  | .sources reference candidate => (calculator.compare reference candidate).map some id
  | .artifacts (referenceId, reference) (candidateId, candidate) =>
      let a := Artifact.ofSource referenceId reference
      let b := Artifact.ofSource candidateId candidate
      (calculator.compareWith a.source a.fingerprint b.source b.fingerprint).map some id
  | .clear => (none, calculator.clear)

def after (start : Calculator) (history : List (Timestamp × Use)) : Calculator :=
  history.foldl (fun calculator call => ((calculator.atTime call.1).perform call.2).2) start

def textsOf (history : List (Timestamp × Use)) : List String :=
  history.flatMap fun call => call.2.texts

/-- A calculator of the same rules as another, which keeps analyses of some texts only, each once
and under the fingerprint of its text. -/
structure Keeps (start : Calculator) (texts : List String) (calculator : Calculator) : Prop where
  rules : ∃ now analyses calls, calculator = { start with now, analyses, calls }
  own : ∀ entry ∈ calculator.analyses, ∃ text ∈ texts,
    entry = (Digest.ofText text, Analysis.ofSource start.grammar start.editLimit text)
  once : (calculator.analyses.map Prod.fst).Nodup

variable {start calculator : Calculator} {texts : List String} {text reference candidate : String}

theorem keeps_of_config (grammar : Grammar) (now : Timestamp) (config : Config)
    (delegate : Option Delegate) (library : Elementary) :
    Keeps (ofConfig grammar now config delegate library) []
      (ofConfig grammar now config delegate library) where
  rules := ⟨_, _, _, rfl⟩
  own _ := nofun
  once := List.nodup_nil

theorem Keeps.weaken {more : List String} (keeps : Keeps start texts calculator)
    (subset : texts ⊆ more) : Keeps start more calculator where
  rules := keeps.rules
  own entry member := by
    obtain ⟨text, used, same⟩ := keeps.own entry member
    exact ⟨text, subset used, same⟩
  once := keeps.once

theorem Keeps.at_time (keeps : Keeps start texts calculator) (now : Timestamp) :
    Keeps start texts (calculator.atTime now) where
  rules := by
    obtain ⟨_, analyses, calls, rfl⟩ := keeps.rules
    exact ⟨now, analyses, calls, rfl⟩
  own := keeps.own
  once := keeps.once

theorem Keeps.clear (keeps : Keeps start texts calculator) :
    Keeps start texts calculator.clear where
  rules := by
    obtain ⟨now, _, calls, rfl⟩ := keeps.rules
    exact ⟨now, [], calls, rfl⟩
  own _ := nofun
  once := List.nodup_nil

theorem Keeps.recount (keeps : Keeps start texts calculator) (calls : Nat) :
    Keeps start texts { calculator with calls } where
  rules := by
    obtain ⟨now, analyses, _, rfl⟩ := keeps.rules
    exact ⟨now, analyses, calls, rfl⟩
  own := keeps.own
  once := keeps.once

theorem Keeps.found {fingerprint : String} {analysis : Analysis}
    (keeps : Keeps start texts calculator)
    (kept : calculator.analyses.lookup fingerprint = some analysis) :
    ∃ source ∈ texts, Digest.ofText source = fingerprint ∧
      analysis = Analysis.ofSource start.grammar start.editLimit source := by
  obtain ⟨before, rest, split, -⟩ := List.lookup_eq_some_iff.1 kept
  obtain ⟨source, used, same⟩ :=
    keeps.own (fingerprint, analysis) (split ▸ List.mem_append_right before List.mem_cons_self)
  obtain ⟨sameFingerprint, own⟩ := Prod.mk.inj same
  exact ⟨source, used, sameFingerprint.symm, own⟩

theorem Keeps.analysis (keeps : Keeps start texts calculator) (used : text ∈ texts) :
    ∃ source ∈ texts, Digest.ofText source = Digest.ofText text ∧
      ∃ after, calculator.analysis (Digest.ofText text) text =
        (Analysis.ofSource start.grammar start.editLimit source, after) ∧
        Keeps start texts after := by
  obtain ⟨now, analyses, calls, rfl⟩ := keeps.rules
  rw [Calculator.analysis]
  cases kept : analyses.lookup (Digest.ofText text) with
  | some analysis =>
      obtain ⟨source, isUsed, sameFingerprint, rfl⟩ := keeps.found kept
      exact ⟨source, isUsed, sameFingerprint, _, rfl, keeps⟩
  | none =>
      refine ⟨text, used, rfl, _, rfl, ⟨_, _, _, rfl⟩, ?_, ?_⟩
      · intro entry member
        cases member with
        | head => exact ⟨text, used, rfl⟩
        | tail _ earlier => exact keeps.own entry earlier
      · apply List.nodup_cons.2
        refine ⟨fun present => ?_, keeps.once⟩
        obtain ⟨entry, member, same⟩ := List.mem_map.1 present
        have differs := List.lookup_eq_none_iff.1 kept entry member
        simp [same] at differs

/-- What comes of the delegate's part: it is skipped for an invalid side, and crashes with the
delegate. -/
def partOf (pair : PairValidity) (reply : Option (String × DelegateReply)) :
    Except String DelegatePart :=
  if pair.bothValid then
    match reply with
    | none => .ok ⟨none, .notAvailable, none⟩
    | some (name, .answered answer) => .ok (.ofAnswer name answer)
    | some (_, .crashed detail) => .error detail
  else .ok (.skipped pair)

def replyTo (calculator : Calculator) (reference candidate : String) :
    Option (String × DelegateReply) :=
  calculator.delegate.map fun delegate =>
    (delegate.name, delegate.ask reference candidate calculator.language)

theorem analysis_after (calculator : Calculator) (fingerprint source : String) :
    ∃ analyses, (calculator.analysis fingerprint source).2 = { calculator with analyses } := by
  rw [Calculator.analysis]
  cases calculator.analyses.lookup fingerprint with
  | some analysis => exact ⟨calculator.analyses, rfl⟩
  | none => exact ⟨_, rfl⟩

/-- A comparison rests on the analyses of both sides and on the part of the delegate, and changes
nothing but what is kept and the number of calls. -/
theorem compare_result (calculator : Calculator) (reference candidate : String) :
    let (a, between) := calculator.analysis (Digest.ofText reference) reference
    let (b, after) := between.analysis (Digest.ofText candidate) candidate
    (calculator.compare reference candidate).1.result =
        (partOf ⟨a.validity, b.validity⟩ (calculator.replyTo reference candidate)).map
          (calculator.record reference candidate a b) ∧
      ∃ calls, (calculator.compare reference candidate).2 = { after with calls } := by
  rw [Calculator.compare, compareWith]
  obtain ⟨analyses, kept⟩ := analysis_after calculator (Digest.ofText reference) reference
  generalize calculator.analysis (Digest.ofText reference) reference = first at kept ⊢
  obtain ⟨a, between⟩ := first
  obtain rfl := kept
  dsimp only
  obtain ⟨analyses', kept⟩ :=
    analysis_after { calculator with analyses } (Digest.ofText candidate) candidate
  generalize Calculator.analysis _ (Digest.ofText candidate) candidate = second at kept ⊢
  obtain ⟨b, after⟩ := second
  obtain rfl := kept
  dsimp only
  unfold partOf replyTo
  split
  next =>
    obtain ⟨grammar, maxOrder, weights, editLimit, language, delegate, now, library, -, calls⟩ :=
      calculator
    cases delegate with
    | none => exact ⟨rfl, calls, rfl⟩
    | some delegate =>
        dsimp only [Option.map]
        cases delegate.ask reference candidate language with
        | answered answer => exact ⟨rfl, calls + 1, rfl⟩
        | crashed detail => exact ⟨rfl, calls + 1, rfl⟩
  next => exact ⟨rfl, calculator.calls, rfl⟩

theorem Keeps.compare (keeps : Keeps start texts calculator) (used : reference ∈ texts)
    (used' : candidate ∈ texts) :
    ∃ source ∈ texts, Digest.ofText source = Digest.ofText reference ∧
      ∃ source' ∈ texts, Digest.ofText source' = Digest.ofText candidate ∧
        let a := Analysis.ofSource start.grammar start.editLimit source
        let b := Analysis.ofSource start.grammar start.editLimit source'
        (calculator.compare reference candidate).1.result =
            (partOf ⟨a.validity, b.validity⟩ (start.replyTo reference candidate)).map
              ((start.atTime calculator.now).record reference candidate a b) ∧
          Keeps start texts (calculator.compare reference candidate).2 := by
  obtain ⟨source, isUsed, same, between, first, keepsBetween⟩ := keeps.analysis used
  obtain ⟨source', isUsed', same', after, second, keepsAfter⟩ := keepsBetween.analysis used'
  have parts := compare_result calculator reference candidate
  rw [first] at parts
  dsimp only at parts
  rw [second] at parts
  obtain ⟨result, calls, rest⟩ := parts
  refine ⟨source, isUsed, same, source', isUsed', same', ?_, ?_⟩
  · obtain ⟨now, analyses, _, rfl⟩ := keeps.rules
    exact result
  · rw [rest]
    exact keepsAfter.recount calls

theorem Keeps.perform (keeps : Keeps start texts calculator) (use : Use)
    (used : use.texts ⊆ texts) :
    Keeps start texts (calculator.perform use).2 := by
  cases use with
  | sources reference candidate =>
      have own : reference ∈ texts := used List.mem_cons_self
      have own' : candidate ∈ texts := used (List.mem_cons_of_mem reference List.mem_cons_self)
      obtain ⟨_, _, _, _, _, _, _, after⟩ := keeps.compare own own'
      exact after
  | artifacts reference candidate =>
      have own : reference.2 ∈ texts := used List.mem_cons_self
      have own' : candidate.2 ∈ texts := used (List.mem_cons_of_mem reference.2 List.mem_cons_self)
      obtain ⟨_, _, _, _, _, _, _, after⟩ := keeps.compare own own'
      exact after
  | clear => exact keeps.clear

/-- The invariant of a whole history. -/
theorem Keeps.after {history : List (Timestamp × Use)} (keeps : Keeps start texts calculator)
    (used : textsOf history ⊆ texts) : Keeps start texts (calculator.after history) := by
  induction history generalizing calculator with
  | nil => exact keeps
  | cons call rest ih =>
      have own : call.2.texts ⊆ texts := fun text member =>
        used (List.mem_append_left _ member)
      exact ih ((keeps.at_time call.1).perform call.2 own) fun text member =>
        used (List.mem_append_right _ member)

end Resemblance.Calculator
