import Mathlib
import Resemblance.Proofs.HistogramDistance
import Resemblance.Proofs.SourceSizes
import Resemblance.Proofs.UnitInterval

/-!
The range of scores. A ratio of counts is in the unit interval when it is divided out in doubles,
and so is every score that is held there and is a number. Sums of counts and of their squares stay
far from the greatest double as long as the counts themselves are those of a text that a machine can
hold.
-/

namespace Resemblance

section Counts

variable {part whole count : Nat} {number : ℝ}

theorem small_number {count : Nat} (small : count ≤ 2 ^ 70) : (count : ℝ) ≤ 2 ^ 1023 := by
  have cast : (count : ℝ) ≤ 2 ^ 70 := by exact_mod_cast small
  exact cast.trans (pow_le_pow_right₀ one_le_two (by norm_num))

theorem count_within {power : Nat} (least : count ≤ 2 ^ power) (small : power ≤ 1023) :
    Within (2 ^ power) count.toFloat :=
  (count_computes count).within (representable_two_pow power) (by exact_mod_cast least)
    (pow_le_pow_right₀ one_le_two small)

theorem count_sided (count : Nat) : Sided .positive count.toFloat :=
  (count_computes count).sided

theorem counts_worth {less more : Nat} (ordered : less ≤ more) (small : more ≤ 2 ^ 70) :
    ∃ number number', Worth .positive less.toFloat number ∧ Worth .positive more.toFloat number' ∧
      number ≤ number' ∧ Nearest less number ∧ Nearest more number' := by
  obtain ⟨number', worth', nearest'⟩ := (count_computes more).nearest (small_number small)
  rcases Nat.lt_or_eq_of_le ordered with less | rfl
  · obtain ⟨number, worth, nearest⟩ :=
      (count_computes _).nearest (small_number (ordered.trans small))
    exact ⟨number, number', worth, worth', nearest.mono nearest' (by exact_mod_cast less),
      nearest, nearest'⟩
  · exact ⟨number', number', worth', worth', le_rfl, nearest', nearest'⟩

theorem Nearest.one_le {number : ℝ} (nearest : Nearest count number)
    (positive : 0 < count) : 1 ≤ number :=
  nearest.ge_of_ge representable_one (by exact_mod_cast positive)

theorem Ratio.within_one {ratio : Ratio} (bounded : ratio.part ≤ ratio.whole)
    (small : ratio.whole ≤ 2 ^ 70) : Within 1 ratio.toFloat := by
  unfold Ratio.toFloat
  split
  next => exact ⟨0, zero_le_one, by rw [literal_zero]; exact worth_zero⟩
  next some =>
    obtain ⟨number, number', worth, worth', ordered, -, nearest⟩ := counts_worth bounded small
    have least := nearest.one_le (Nat.pos_of_ne_zero some)
    exact Within.quotient ⟨number, ordered, worth⟩ worth' (by linarith)

theorem within_unit_of_clamp {x : Float} (sided : Sided .positive x) : Within 1 (clampUnit x) :=
  in_unit_iff.1 (clamp_in_unit sided.is_number)

theorem delta_within (a b : Nat) (small : max a b ≤ 2 ^ 70) : Within 1 (delta a b) :=
  within_unit_of_clamp (Ratio.within_one (Nat.sub_le _ _) small).sided

end Counts

section Sums

variable {xs : List Float} {x sum : Float}

theorem Within.absorb (within : Within (2 ^ 200) sum) (little : Within (2 ^ 140) x) :
    Within (2 ^ 200) (sum + x) := by
  obtain ⟨number, least, worth⟩ := within
  obtain ⟨number', least', worth'⟩ := little
  have step : (2 : ℝ) ^ 140 ≤ 2 ^ (200 - 54) := pow_le_pow_right₀ one_le_two (by norm_num)
  have low : number + number' ≤ 2 ^ 200 + 2 ^ (200 - 54) := by linarith
  have small : number + number' ≤ 2 ^ 1023 := by
    have double : (2 : ℝ) ^ 200 + 2 ^ (200 - 54) ≤ 2 ^ 201 := by
      have half : (2 : ℝ) ^ (200 - 54) ≤ 2 ^ 200 := pow_le_pow_right₀ one_le_two (by norm_num)
      rw [pow_succ (2 : ℝ) 200]
      linarith
    exact (low.trans double).trans (pow_le_pow_right₀ one_le_two (by norm_num))
  obtain ⟨rounded, worth, nearest⟩ := (worth.add worth').nearest small
  exact ⟨rounded, nearest.absorbs (by norm_num) low, worth⟩

theorem negative_zero_worth : Worth .positive (-0.0) 0 := by
  have bits : (-0.0 : Float) = Float.ofBits 0x8000000000000000 := by decide +kernel
  rw [bits]
  exact .zero .negative

/-- A sum of squares of counts stays far from the greatest double: what is added to so great a
number changes nothing. -/
theorem sum_floats_within (bounded : ∀ x ∈ xs, Within (2 ^ 140) x) :
    Within (2 ^ 200) (sumFloats xs) := by
  have start : Within (2 ^ 200) (-0.0) := ⟨0, by positivity, negative_zero_worth⟩
  unfold sumFloats
  generalize (-0.0 : Float) = sum at start
  induction xs generalizing sum with
  | nil => exact start
  | cons x rest ih =>
      exact ih (fun y member => bounded y (List.mem_cons_of_mem x member)) _
        (start.absorb (bounded x (List.mem_cons_self ..)))

end Sums

namespace Histogram

variable {a b : Histogram}

theorem product_within {m n : Nat} (small : m ≤ 2 ^ 70) (small' : n ≤ 2 ^ 70) :
    Within (2 ^ 140) (m.toFloat * n.toFloat) :=
  (count_within small (by norm_num)).mul (count_within small' (by norm_num))
    (representable_two_pow 140)
    (by rw [← pow_add]) (pow_le_pow_right₀ one_le_two (by norm_num))

/-- The length of a histogram is zero, or not so small that a product of two lengths were. -/
theorem norm_worth (small : ∀ n ∈ a.values, n ≤ 2 ^ 70) :
    ∃ number ≤ 2 ^ 100, Worth .positive a.norm number ∧
    (number = 0 ∨ 2 ^ (-537 : Int) ≤ number) := by
  have squares : ∀ x ∈ a.values.map fun n => n.toFloat * n.toFloat, Within (2 ^ 140) x := by
    intro x member
    obtain ⟨n, listed, rfl⟩ := List.mem_map.1 member
    exact product_within (small n listed) (small n listed)
  obtain ⟨square, most, worth⟩ := sum_floats_within squares
  have root : √square ≤ 2 ^ 100 := by
    rw [Real.sqrt_le_left (by positivity), ← pow_mul]
    exact most
  have great : (2 : ℝ) ^ 100 ≤ 2 ^ 1023 := pow_le_pow_right₀ one_le_two (by norm_num)
  obtain ⟨number, worth', nearest⟩ := worth.sqrt.nearest (root.trans great)
  refine ⟨number, nearest.le_of_le (representable_two_pow 100) root, worth', ?_⟩
  rcases worth.nonneg.eq_or_lt with nothing | positive
  · left
    have none : √square ≤ 0 := by rw [← nothing, Real.sqrt_zero]
    exact le_antisymm (nearest.le_of_le representable_zero none) worth'.nonneg
  · right
    apply nearest.ge_of_ge (representable_two_zpow (by norm_num))
    rw [Real.le_sqrt' (by positivity), ← zpow_natCast, ← zpow_mul]
    exact worth.representable.least positive

theorem norm_positive (small : ∀ n ∈ a.values, n ≤ 2 ^ 70) (apart : (a.norm == 0.0) = false) :
    ∃ number ≤ 2 ^ 100, Worth .positive a.norm number ∧ 2 ^ (-537 : Int) ≤ number := by
  obtain ⟨number, most, worth, nothing | least⟩ := norm_worth small
  · subst nothing
    rw [literal_zero] at apart
    have same := (worth.valued.beq_iff worth_zero.valued).2 rfl
    rw [same] at apart
    cases apart
  · exact ⟨number, most, worth, least⟩

theorem CountsOf.values_le {kinds : List String} (counted : a.CountsOf kinds) :
    ∀ n ∈ a.values, n ≤ kinds.length := by
  intro n member
  rw [← counted.total, sum_of_eq_sum]
  exact List.le_sum_of_mem member

theorem values_small_of_common (small : ∀ n ∈ a.values, n ≤ 2 ^ 70)
    (small' : ∀ n ∈ b.values, n ≤ 2 ^ 70)
    {pair : Nat × Nat} (listed : pair ∈ common a b) : pair.1 ≤ 2 ^ 70 ∧ pair.2 ≤ 2 ^ 70 := by
  obtain ⟨entry, own, found⟩ := List.mem_filterMap.1 listed
  obtain ⟨other, known, rfl⟩ := Option.map_eq_some_iff.1 found
  obtain ⟨before, rest, split, -⟩ := List.lookup_eq_some_iff.1 known
  refine ⟨small _ (List.mem_map_of_mem own), small' _ ?_⟩
  rw [values, split]
  simp

theorem cosine_within (small : ∀ n ∈ a.values, n ≤ 2 ^ 70) (small' : ∀ n ∈ b.values, n ≤ 2 ^ 70) :
    Within 1 (a.cosine b) := by
  unfold cosine
  split
  next => exact ⟨1, le_rfl, by rw [literal_one]; exact worth_one⟩
  next some =>
    dsimp only
    split
    next => exact ⟨0, zero_le_one, by rw [literal_zero]; exact worth_zero⟩
    next apart =>
      rw [Bool.or_eq_true, not_or, Bool.not_eq_true, Bool.not_eq_true] at apart
      obtain ⟨first, most, worth, least⟩ := norm_positive small apart.1
      obtain ⟨second, most', worth', least'⟩ := norm_positive small' apart.2
      have tiny : (0 : ℝ) < 2 ^ (-537 : Int) := by positivity
      have great : first * second ≤ 2 ^ 200 :=
        calc first * second ≤ 2 ^ 100 * 2 ^ 100 :=
              mul_le_mul most most' (tiny.le.trans least') (by positivity)
          _ = 2 ^ 200 := by rw [← pow_add]
      obtain ⟨product, worth'', nearest⟩ := (worth.mul worth').nearest
        (great.trans (pow_le_pow_right₀ one_le_two (by norm_num)))
      have apart : 2 ^ (-1074 : Int) ≤ first * second :=
        calc (2 : ℝ) ^ (-1074 : Int) = 2 ^ (-537 : Int) * 2 ^ (-537 : Int) := by
              rw [← zpow_add₀ two_ne_zero]
              norm_num
          _ ≤ first * second := mul_le_mul least least' tiny.le (tiny.le.trans least)
      have positive : 0 < product :=
        lt_of_lt_of_le (by positivity)
          (nearest.ge_of_ge (representable_two_zpow (by norm_num)) apart)
      apply within_unit_of_clamp
      refine Sided.div (Within.sided (sum_floats_within fun x member => ?_)) worth'' positive
      obtain ⟨pair, listed, rfl⟩ := List.mem_map.1 member
      obtain ⟨low, low'⟩ := values_small_of_common small small' listed
      exact product_within low low'

end Histogram

theorem Overlap.ratio_within {α : Type} [BEq α] [LawfulBEq α] {a b : List α} (once : a.Nodup)
    (once' : b.Nodup) (few : a.length ≤ 2 ^ 64) (few' : b.length ≤ 2 ^ 64) :
    Within 1 (Overlap.ratio a b).toFloat := by
  have left := Overlap.shared_le_left a b
  have right := Overlap.shared_le_left b a
  rw [Overlap.shared_comm once' once] at right
  rw [Overlap.ratio_eq]
  split
  next => exact Ratio.within_one (Nat.le_refl 1) (by decide)
  next =>
    apply Ratio.within_one
    · show Overlap.shared a b ≤ a.length + b.length - Overlap.shared a b
      omega
    · show a.length + b.length - Overlap.shared a b ≤ 2 ^ 70
      omega

namespace VocabularyScores

def values (scores : VocabularyScores) : List Float :=
  [scores.tokens, scores.words, scores.identifiers, scores.keywords, scores.names]

end VocabularyScores

theorem Vocabulary.compare_within {a b : Vocabulary} (once : a.Distinct) (once' : b.Distinct)
    (few : a.Short (2 ^ 64)) (few' : b.Short (2 ^ 64)) :
    ∀ score ∈ (a.compare b).values, Within 1 score := by
  simp only [VocabularyScores.values, Vocabulary.compare, Vocabulary.overlap_eq_ratio,
    List.forall_mem_cons]
  refine ⟨?_, ?_, ?_, ?_, ?_, List.forall_mem_nil _⟩
  · exact Overlap.ratio_within once.tokens once'.tokens few.tokens few'.tokens
  · exact Overlap.ratio_within once.words once'.words few.words few'.words
  · exact Overlap.ratio_within once.identifiers once'.identifiers few.identifiers few'.identifiers
  · exact Overlap.ratio_within once.keywords once'.keywords few.keywords few'.keywords
  · exact Overlap.ratio_within once.names once'.names few.names few'.names

namespace ShapeScores

def values (scores : ShapeScores) : List Float :=
  [scores.nodeCountDelta, scores.depthDelta, scores.histogramSimilarity, scores.histogramDistance,
    scores.subtreeOverlap] ++ scores.editSimilarity.toList ++ scores.weightedEditSimilarity.toList

theorem edit_similarity_within (distance : Nat) {total : Nat} (small : total ≤ 2 ^ 70) :
    Within 1 (editSimilarityOf distance total) := by
  have some : 0 < max total 1 := by omega
  obtain ⟨number, -, worth, -, -, nearest, -⟩ := counts_worth (Nat.le_refl (max total 1)) (by omega)
  have least := nearest.one_le some
  have quotient := (count_sided distance).div worth (by linarith)
  obtain ⟨sign, sided⟩ := worth_literal_one.sub_sided quotient
  exact in_unit_iff.1 (clamp_in_unit sided.is_number)

theorem edit_within {H : Type} {diff : EditTree H → EditTree H → Nat} {a b : Option (WeighedTree H)}
    (light : ∀ tree, a = some tree → tree.weight < 2 ^ 66)
    (light' : ∀ tree, b = some tree → tree.weight < 2 ^ 66) :
    ∀ score ∈ ((edit diff a b).map Prod.snd).toList, Within 1 score := by
  intro score member
  obtain ⟨pair, found, rfl⟩ := Option.map_eq_some_iff.1 (Option.mem_toList.1 member)
  cases a with
  | none => cases found
  | some own =>
      cases b with
      | none => cases found
      | some other =>
          obtain rfl := Option.some.inj found
          have left := light own rfl
          have right := light' other rfl
          exact edit_similarity_within _ (by omega)

theorem compare_within {a b : ShapeProfile} (fits : a.Fits) (fits' : b.Fits) :
    ∀ score ∈ (compare a b).values, Within 1 score := by
  obtain ⟨kinds, counted, few⟩ := fits.histogram
  obtain ⟨kinds', counted', few'⟩ := fits'.histogram
  have values := counted.values_le
  have values' := counted'.values_le
  obtain ⟨-, whole⟩ := Histogram.distance_ratio_counts counted counted'
  have part := Histogram.distance_part_le_whole counted.increasing counted'.increasing
  have nodes := fits.nodes
  have nodes' := fits'.nodes
  have depth := fits.depth
  have depth' := fits'.depth
  simp only [ShapeScores.values, compare, compareWith, List.forall_mem_append, List.forall_mem_cons]
  refine ⟨⟨⟨?_, ?_, ?_, ?_, ?_, List.forall_mem_nil _⟩, ?_⟩, ?_⟩
  · exact delta_within _ _ (by omega)
  · exact delta_within _ _ (by omega)
  · exact Histogram.cosine_within (fun n member => by have := values n member; omega)
      (fun n member => by have := values' n member; omega)
  · exact within_unit_of_clamp (Ratio.within_one part (by omega)).sided
  · exact Overlap.ratio_within fits.once fits'.once fits.subtrees.le fits'.subtrees.le
  · exact edit_within fits.unit fits'.unit
  · exact edit_within fits.weighted fits'.weighted

theorem complement_sided {x : Float} (within : Within 1 x) : Sided .positive (1.0 - x) := by
  obtain ⟨number, least, worth⟩ := within
  exact (worth_literal_one.sub worth least).sided

theorem similarity_within {scores : ShapeScores}
    (within : ∀ score ∈ scores.values, Within 1 score) :
    Within 1 scores.similarity := by
  have nodes := within scores.nodeCountDelta (by simp [values])
  have depth := within scores.depthDelta (by simp [values])
  have histogram := within scores.histogramSimilarity (by simp [values])
  apply within_unit_of_clamp
  exact Sided.div (((complement_sided nodes).add (complement_sided depth)).add histogram.sided)
    worth_three (by norm_num)

end ShapeScores

end Resemblance
