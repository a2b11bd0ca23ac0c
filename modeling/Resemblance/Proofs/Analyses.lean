import Resemblance.Calculator
import Resemblance.Run

/-!
Analyses that are kept. A calculator that keeps no wrong analysis compares like one that keeps none,
and still keeps no wrong one afterwards, as long as fingerprints tell the sources apart. Records of
calculators of the same rules differ in nothing but their time.
-/

namespace Resemblance

def ToldApart (sources : String → Prop) : Prop :=
  ∀ source other, sources source → sources other → Digest.ofText source = Digest.ofText other →
    source = other

namespace Calculator

variable {start calculator other : Calculator} {sources : String → Prop}
variable {source reference candidate : String}

/-- A calculator of the same rules and time as another, which keeps no wrong analysis of some
sources. -/
structure Knows (start : Calculator) (sources : String → Prop)
    (calculator : Calculator) : Prop where
  rules : ∃ analyses calls, calculator = { start with analyses, calls }
  faithful : ∀ source, sources source → ∀ analysis,
    calculator.analyses.lookup (Digest.ofText source) = some analysis →
      analysis = Analysis.ofSource start.grammar start.editLimit source

theorem Knows.now (knows : Knows start sources calculator) : calculator.now = start.now := by
  obtain ⟨_, _, rules⟩ := knows.rules
  rw [rules]

theorem knows_clear (start : Calculator) (sources : String → Prop) :
    Knows start sources start.clear :=
  ⟨⟨_, _, rfl⟩, fun _ _ _ => nofun⟩

theorem Knows.analysis (knows : Knows start sources calculator) (apart : ToldApart sources)
    (own : sources source) :
    ∃ after, calculator.analysis (Digest.ofText source) source =
        (Analysis.ofSource start.grammar start.editLimit source, after) ∧
        Knows start sources after := by
  obtain ⟨analyses, calls, rfl⟩ := knows.rules
  rw [Calculator.analysis]
  cases kept : analyses.lookup (Digest.ofText source) with
  | some analysis =>
      obtain rfl := knows.faithful source own analysis kept
      exact ⟨_, rfl, knows⟩
  | none =>
      refine ⟨_, rfl, ⟨_, _, rfl⟩, fun other isOwn analysis found => ?_⟩
      rw [List.lookup_cons] at found
      split at found
      · rename_i same
        obtain rfl := apart other source isOwn own (eq_of_beq same)
        exact (Option.some.inj found).symm
      · exact knows.faithful other isOwn analysis found

theorem Knows.compare_keeps (knows : Knows start sources calculator) (apart : ToldApart sources)
    (own : sources reference) (own' : sources candidate) :
    Knows start sources (calculator.compare reference candidate).2 := by
  obtain ⟨between, first, knows⟩ := knows.analysis apart own
  obtain ⟨after, second, knows⟩ := knows.analysis apart own'
  obtain ⟨analyses, calls, rfl⟩ := knows.rules
  simp only [Calculator.compare, compareWith, first, second]
  split
  · split
    · exact knows
    · exact ⟨⟨_, _, rfl⟩, knows.faithful⟩
  · exact knows

/-- Calculators that keep no wrong analysis come to the same comparison. -/
theorem Knows.compare_eq (knows : Knows start sources calculator)
    (knows' : Knows start sources other)
    (apart : ToldApart sources) (own : sources reference) (own' : sources candidate) :
    (calculator.compare reference candidate).1 = (other.compare reference candidate).1 := by
  obtain ⟨between, first, knows⟩ := knows.analysis apart own
  obtain ⟨after, second, knows⟩ := knows.analysis apart own'
  obtain ⟨between', first', knows'⟩ := knows'.analysis apart own
  obtain ⟨after', second', knows'⟩ := knows'.analysis apart own'
  obtain ⟨_, _, rfl⟩ := knows.rules
  obtain ⟨_, _, rfl⟩ := knows'.rules
  simp only [Calculator.compare, compareWith, first, second, first', second']
  split
  · split <;> rfl
  · rfl

/-- A calculator that comes to an end within a limit, even if it asks its delegate. -/
structure InTime (calculator : Calculator) (limit : Duration) : Prop where
  least : RunState.leastTime.millis ≤ limit.millis
  delegate : ∀ delegate, calculator.delegate = some delegate →
    RunState.leastTime.millis + delegate.time.millis ≤ limit.millis

theorem Knows.compare_in_time (knows : Knows start sources calculator) (limit : Duration)
    (apart : ToldApart sources) (own : sources reference) (own' : sources candidate)
    (inTime : start.InTime limit) :
    RunState.leastTime.millis + (calculator.compare reference candidate).1.time.millis ≤
      limit.millis := by
  obtain ⟨between, first, knows⟩ := knows.analysis apart own
  obtain ⟨after, second, knows⟩ := knows.analysis apart own'
  obtain ⟨_, _, rfl⟩ := knows.rules
  simp only [Calculator.compare, compareWith, first, second]
  split
  · split
    · exact inTime.least
    · rename_i delegate asked
      exact inTime.delegate delegate asked
  · exact inTime.least

def retimed (calculator : Calculator) (now : Timestamp) (calls : Nat) : Calculator :=
  { calculator with now, calls }

theorem retimed_analysis (calculator : Calculator) (now : Timestamp) (calls : Nat)
    (fingerprint source : String) :
    (calculator.retimed now calls).analysis fingerprint source =
      (calculator.analysis fingerprint source).map id fun after => after.retimed now calls := by
  rw [Calculator.analysis, Calculator.analysis, retimed]
  cases calculator.analyses.lookup fingerprint <;> rfl

theorem retimed_compare (calculator : Calculator) (now : Timestamp) (calls : Nat)
    (reference candidate : String) :
    ((calculator.retimed now calls).compare reference candidate).1.result =
      (calculator.compare reference candidate).1.result.map fun record =>
        { record with computedAt := now } := by
  rw [Calculator.compare, Calculator.compare, compareWith, compareWith, retimed_analysis]
  generalize calculator.analysis (Digest.ofText reference) reference = first
  obtain ⟨a, between⟩ := first
  simp only [Prod.map, id, retimed_analysis]
  generalize between.analysis (Digest.ofText candidate) candidate = second
  obtain ⟨b, after⟩ := second
  obtain ⟨grammar, maxOrder, weights, editLimit, language, delegate, _, library, analyses, _⟩ :=
    after
  simp only [retimed]
  split
  · cases delegate with
    | none => rfl
    | some delegate =>
        dsimp only
        cases delegate.ask reference candidate language <;> rfl
  · rfl

end Calculator
end Resemblance
