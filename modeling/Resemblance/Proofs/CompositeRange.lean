import Mathlib
import Resemblance.Config
import Resemblance.Proofs.BleuRange
import Resemblance.Proofs.CacheDirectory

/-!
The range of what scores are combined to: the composite of a record and the means that a delegate's
scores enter. The composite needs a total weight that is finite for every choice of the parts that
are present.
-/

namespace Resemblance

/-- Weights that can be counted with: none is negative, and their sum is finite. -/
structure Weights.Sound (weights : Weights Float) : Prop where
  bleu : ∃ number, Worth .positive weights.bleu number
  structural : ∃ number, Worth .positive weights.structural number
  delegate : ∃ number, Worth .positive weights.delegate number
  finite : (weights.bleu + weights.structural + weights.delegate).isFinite = true

namespace Config

open CacheDirectory (bind_ok map_error_ok)

theorem worth_of_check {value : Float} {field : String}
    (checked : checkNonNegative value field = .ok ()) :
    ∃ number, Worth .positive value number := by
  unfold checkNonNegative at checked
  split at checked
  next => exact absurd checked nofun
  next good =>
    rw [Bool.or_eq_true, not_or, Bool.not_eq_true, Bool.not_eq_false', decide_eq_true_eq] at good
    obtain ⟨finite, positive⟩ := good
    have known : value.toModel.unpack.isFinite = true := finite
    have number : value.toModel.unpack ≠ .notANumber := by
      intro none
      rw [none] at known
      cases known
    obtain ⟨extended, valued⟩ := number_valued number
    rw [literal_zero] at positive
    exact worth_of_finite finite valued
      (le_of_not_gt fun less => positive ((valued.lt_iff worth_zero.valued).2 less))

theorem worth_of_weights {weights : Weights Float} (valid : checkWeights weights = .ok ()) :
    (∃ number, Worth .positive weights.bleu number) ∧
      (∃ number, Worth .positive weights.structural number) ∧
      ∃ number, Worth .positive weights.delegate number := by
  obtain ⟨_, bleu, rest⟩ := bind_ok.1 valid
  obtain ⟨_, structural, rest⟩ := bind_ok.1 rest
  obtain ⟨_, delegate, _⟩ := bind_ok.1 rest
  exact ⟨worth_of_check bleu, worth_of_check structural, worth_of_check delegate⟩

theorem sound_weights {config : Config} (valid : config.validate = .ok ())
    (finite : (config.weights.bleu + config.weights.structural + config.weights.delegate).isFinite =
      true) :
    config.weights.Sound := by
  obtain ⟨_, _, rest⟩ := bind_ok.1 (map_error_ok.1 valid)
  obtain ⟨_, weighed, _⟩ := bind_ok.1 rest
  obtain ⟨bleu, structural, delegate⟩ := worth_of_weights weighed
  exact ⟨bleu, structural, delegate, finite⟩

end Config

section Total

variable {x y z t : Float} {number : ℝ}

theorem Means.unique {number' : ℝ} {unpacked unpacked' : Float.Model.UnpackedFloat}
    (means : Means .positive number unpacked) (means' : Means .positive number' unpacked')
    (positive : 0 < number) (same : number = number') : unpacked = unpacked' := by
  cases means with
  | zero own => exact absurd positive (lt_irrefl 0)
  | finite mantissa exponent some canonical =>
      cases means' with
      | zero own' => exact absurd same positive.ne'
      | finite mantissa' exponent' some' canonical' =>
          have equal := canonical.compare canonical'
          rw [compare_eq_iff_eq.2 same, Ordering.then_eq_eq, compare_eq_iff_eq, compare_eq_iff_eq]
            at equal
          obtain ⟨rfl, rfl⟩ := equal
          rfl

theorem Computes.finite_left {exact : ℝ} (computes : Computes .positive exact x)
    (sided : Sided .positive y) (finite : (x + y).isFinite = true) :
    ∃ number, Worth .positive x number ∧ Nearest exact number := by
  obtain ⟨rounded, nearest, ⟨-, worth⟩ | ⟨-, great⟩⟩ := computes
  · exact ⟨rounded, worth, nearest⟩
  · have known : (x + y).toModel.unpack.isFinite = true := finite
    rw [Sided.add_infinity great sided] at known
    cases known

theorem Worth.add_of_le {a b c d : ℝ} (worth : Worth .positive x a) (greater : Worth .positive y b)
    (ordered : a ≤ b) (worth' : Worth .positive z c) (greater' : Worth .positive t d)
    (ordered' : c ≤ d)
    (finite : (y + t).isFinite = true) :
    ∃ number number', number ≤ number' ∧ Worth .positive (x + z) number ∧
      Worth .positive (y + t) number' := by
  obtain ⟨most, added, nearest', small⟩ := (greater.add greater').finite finite
  obtain ⟨rounded, nearest, computed⟩ := worth.add worth'
  have conclude : rounded ≤ most → ∃ number number', number ≤ number' ∧
      Worth .positive (x + z) number ∧
      Worth .positive (y + t) number' := by
    intro low
    rcases computed with ⟨-, found⟩ | ⟨great, -⟩
    · exact ⟨rounded, most, low, found, added⟩
    · exact absurd (le_trans great low) small
  rcases (add_le_add ordered ordered').lt_or_eq with less | equal
  · exact conclude (nearest.mono nearest' less)
  · -- The same exact sum could be rounded in two ways; but then it is the same sum of doubles, or a
    -- number that needs no rounding.
    obtain rfl : a = b := by linarith
    obtain rfl : c = d := by linarith
    have exactly : Representable (a + c) → rounded ≤ most := fun own =>
      (nearest.le_of_le own le_rfl).trans (nearest'.ge_of_ge own le_rfl)
    rcases worth.nonneg.eq_or_lt with rfl | positive
    · exact conclude (exactly (by rw [zero_add]; exact worth'.representable))
    · rcases worth'.nonneg.eq_or_lt with rfl | positive'
      · exact conclude (exactly (by rw [add_zero]; exact worth.representable))
      · have same : x.toModel.unpack = y.toModel.unpack := Means.unique worth greater positive rfl
        have same' : z.toModel.unpack = t.toModel.unpack :=
          Means.unique worth' greater' positive' rfl
        have sums : x + z = y + t := by
          have equal : (x + z).toModel =
              (y + t).toModel := by rw [to_model_add, to_model_add, same, same']
          exact congrArg Float.ofModel equal
        rw [sums]
        exact ⟨most, most, le_rfl, added, added⟩

end Total

namespace WeightedSum

variable {total : WeightedSum Float} {weight : Float} {part : Option Float} {number : ℝ}

theorem add_sided (sided : Sided .positive total.sum) (worth : Worth .positive weight number)
    (within : ∀ score, part = some score → Within 1 score) :
    Sided .positive (total.add weight part).sum := by
  cases part with
  | none => exact sided
  | some score =>
      obtain ⟨number', -, worth'⟩ := within score rfl
      exact sided.add (worth.mul worth').sided

theorem mean_within (sided : Sided .positive total.sum)
    (worth : Worth .positive total.weight number) :
    Within 1 total.mean := by
  unfold mean
  split
  next => exact ⟨0, zero_le_one, worth_zero⟩
  next some =>
    have positive : 0 < number := by
      by_contra none
      apply some
      have nothing : (number : EReal) ≤ ((0 : ℝ) : EReal) := EReal.coe_le_coe (not_lt.1 none)
      exact decide_eq_true ((worth.valued.le_iff worth_zero.valued).2 nothing)
    exact within_unit_of_clamp (sided.div worth positive)

end WeightedSum

/-- The total of the weights is finite for every choice of the parts that are present. -/
theorem Weights.Sound.total {weights : Weights Float} (sound : weights.Sound)
    (first : WeightedSum Float)
    (own : first.weight = weights.bleu) (structural delegate : Option Float) :
    ∃ number, Worth .positive
      ((first.add weights.structural structural).add weights.delegate delegate).weight number := by
  obtain ⟨bleu, worth⟩ := sound.bleu
  obtain ⟨other, worth'⟩ := sound.structural
  obtain ⟨last, worth''⟩ := sound.delegate
  obtain ⟨both, worthBoth, nearest⟩ := (worth.add worth').finite_left worth''.sided sound.finite
  have ordered : bleu ≤ both := nearest.ge_of_ge worth.representable (by linarith [worth'.nonneg])
  rw [← own] at worth worthBoth
  have finite := sound.finite
  rw [← own] at finite
  cases structural with
  | none =>
      cases delegate with
      | none => exact ⟨bleu, worth⟩
      | some mean =>
          obtain ⟨whole, -, -, worthWhole, -⟩ :=
            worth.add_of_le worthBoth ordered worth'' worth'' le_rfl finite
          exact ⟨whole, worthWhole⟩
  | some similarity =>
      cases delegate with
      | none => exact ⟨both, worthBoth⟩
      | some mean =>
          obtain ⟨whole, worthWhole, -⟩ := (worthBoth.add worth'').finite finite
          exact ⟨whole, worthWhole⟩

theorem composite_within {weights : Weights Float} (sound : weights.Sound) {bleu : Float}
    {structural delegate : Option Float} (within : Within 1 bleu)
    (within' : ∀ score, structural = some score → Within 1 score)
    (within'' : ∀ score, delegate = some score → Within 1 score) :
    Within 1 (compositeScore weights bleu structural delegate) := by
  obtain ⟨number, worth⟩ := sound.bleu
  obtain ⟨other, worth'⟩ := sound.structural
  obtain ⟨last, worth''⟩ := sound.delegate
  obtain ⟨score, -, worthScore⟩ := within
  obtain ⟨total, worthTotal⟩ :=
    sound.total ⟨weights.bleu * bleu, weights.bleu⟩ rfl structural delegate
  have first : Sided .positive (weights.bleu * bleu) := (worth.mul worthScore).sided
  exact WeightedSum.mean_within
    (WeightedSum.add_sided (WeightedSum.add_sided first worth' within') worth'' within'') worthTotal

section Means

variable {x y z : Float}

theorem two_small : (2 : ℝ) ≤ 2 ^ 1023 :=
  le_self_pow₀ one_le_two (by norm_num)

theorem three_small : (3 : ℝ) ≤ 2 ^ 1023 :=
  calc (3 : ℝ) ≤ 2 ^ 2 := by norm_num
    _ ≤ 2 ^ 1023 := pow_le_pow_right₀ one_le_two (by norm_num)

/-- A sum of two scores is at most two, and one of three at most three, also after rounding. -/
theorem mean_of_two_within (within : Within 1 x) (within' : Within 1 y) :
    Within 1 ((x + y) / 2.0) :=
  (within.add within' (representable_nat (by decide : 2 < 2 ^ 53)) (by norm_num) two_small).quotient
    worth_two two_pos

theorem mean_of_three_within (within : Within 1 x) (within' : Within 1 y) (within'' : Within 1 z) :
    Within 1 ((x + y + z) / 3.0) := by
  have two := within.add within' (representable_nat (by decide : 2 < 2 ^ 53))
    (by norm_num) two_small
  have three := two.add within'' (representable_nat (by decide : 3 < 2 ^ 53))
    (by norm_num) three_small
  exact three.quotient worth_three three_pos

end Means

namespace DelegateScores

theorem in_range_iff (x : Float) : inRange x = true ↔ InUnit x := by
  unfold inRange InUnit
  rw [Bool.and_eq_true, Bool.and_eq_true, decide_eq_true_eq, decide_eq_true_eq]
  constructor
  · rintro ⟨⟨-, low⟩, high⟩
    exact ⟨low, high⟩
  · rintro ⟨low, high⟩
    obtain ⟨number, -, worth⟩ := in_unit_iff.1 ⟨low, high⟩
    exact ⟨⟨worth.finite, low⟩, high⟩

theorem check_ok_iff (scores : DelegateScores) :
    scores.check = .ok scores ↔ ∀ entry ∈ scores.named, InUnit entry.2 := by
  unfold check
  cases found : scores.named.find? fun entry => !inRange entry.2 with
  | none =>
      simp only [List.find?_eq_none, Bool.not_eq_true', Bool.not_eq_false] at found
      simp only [true_iff]
      exact fun entry member => (in_range_iff entry.2).1 (found entry member)
  | some entry =>
      have out := List.find?_some found
      have member := List.mem_of_find?_eq_some found
      simp only [reduceCtorEq, false_iff, not_forall]
      refine ⟨entry, member, fun inside => ?_⟩
      rw [(in_range_iff entry.2).2 inside] at out
      cases out

theorem mean_within {scores : DelegateScores} (within : ∀ entry ∈ scores.named, Within 1 entry.2) :
    Within 1 scores.mean := by
  simp only [named, List.forall_mem_cons] at within
  exact mean_of_three_within within.1 within.2.1 within.2.2.1

end DelegateScores

end Resemblance
