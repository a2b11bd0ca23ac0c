import Mathlib
import Resemblance.Proofs.BleuRange

/-!
The bilingual evaluation score of a text against itself. All its grams are matched, so that every
precision is the double one whatever the counts are, every logarithm is zero, and the score is the
double one; where a side has no tokens, or no grams are looked at, it is zero.
-/

namespace Resemblance

open Float.Model (Format)

/-- The library of elementary functions is exact at the logarithm of one and the exponential of
zero. -/
structure Elementary.Anchored (library : Elementary) : Prop where
  log_one : (library.log 1.0 == 0.0) = true
  exp_zero : ∀ x, (x == 0.0) = true → library.exp x = 1.0

theorem coarse_library_anchored : coarseLibrary.Anchored where
  log_one := by decide +kernel
  exp_zero x equal := by
    dsimp only [coarseLibrary]
    rw [if_pos equal]

section Doubles

variable {x y : Float} {number : ℝ}

/-- A double that is not very small, divided by itself, is the double one. -/
theorem Worth.div_self (worth : Worth .positive x number) (least : 1 ≤ number) : x / x = 1.0 := by
  have same : x.toModel.unpack.div Format.binary64 x.toModel.unpack = unpackedOne := by
    unfold Worth at worth
    generalize x.toModel.unpack = unpacked at worth ⊢
    cases worth with
    | zero own => exact absurd least (by norm_num)
    | finite mantissa exponent positive canonical =>
        have full : 2 ^ 52 ≤ mantissa := by
          refine canonical.full.resolve_right ?_
          rintro rfl
          have most : (mantissa : ℝ) < 2 ^ 53 := by exact_mod_cast canonical.short
          have small : (mantissa : ℝ) * 2 ^ (-1074 : Int) < 1 :=
            calc (mantissa : ℝ) * 2 ^ (-1074 : Int) < 2 ^ 53 * 2 ^ (-1074 : Int) :=
                  mul_lt_mul_of_pos_right most (by positivity)
              _ ≤ 2 ^ 53 * 2 ^ (-53 : Int) :=
                  mul_le_mul_of_nonneg_left (zpow_le_zpow_right₀ one_le_two (by norm_num))
                    (by positivity)
              _ = 1 := by norm_num
          exact absurd least small.not_ge
        exact div_self_eq_one ⟨full, canonical.short⟩
  have equal : (x / x).toModel = (1.0 : Float).toModel := by rw [to_model_div, same, to_model_one]
  exact congrArg Float.ofModel equal

theorem count_div_self {count : Nat} (some : 0 < count) (small : count ≤ 2 ^ 70) :
    count.toFloat / count.toFloat = 1.0 := by
  obtain ⟨number, -, worth, -, -, nearest, -⟩ := counts_worth (Nat.le_refl count) small
  exact worth.div_self (nearest.one_le some)

theorem beq_zero_iff : (x == 0.0) = true ↔ Worth .positive x 0 := by
  rw [literal_zero]
  constructor
  · intro equal
    have number : x.toModel.unpack ≠ .notANumber := by
      intro none
      have bits : (x.toModel.unpack.compare (0 : Nat).toFloat.toModel.unpack == some .eq) =
          true := equal
      rw [none, unpack_zero] at bits
      cases bits
    obtain ⟨value, valued⟩ := number_valued number
    obtain rfl : value = ((0 : ℝ) : EReal) := (valued.beq_iff worth_zero.valued).1 equal
    have worth := valued.worth le_rfl (EReal.coe_lt_top 0)
    rwa [EReal.toReal_coe] at worth
  · exact fun worth => (worth.valued.beq_iff worth_zero.valued).2 rfl

theorem Worth.zero_of_nearest (computes : Computes .positive 0 x) : Worth .positive x 0 := by
  obtain ⟨rounded, worth, nearest⟩ := computes.nearest (by positivity)
  have low := nearest.le_of_le representable_zero le_rfl
  rwa [le_antisymm low worth.nonneg] at worth

theorem Worth.zero_add_zero (worth : Worth .positive x 0) (worth' : Worth .positive y 0) :
    Worth .positive (x + y) 0 := by
  have sum := worth.add worth'
  rw [add_zero] at sum
  exact zero_of_nearest sum

theorem Worth.nothing_div (worth : Worth .positive x 0) (worth' : Worth .positive y number)
    (positive : 0 < number) : Worth .positive (x / y) 0 := by
  have quotient := worth.div worth' positive
  rw [zero_div] at quotient
  exact zero_of_nearest quotient

end Doubles

namespace Gram

theorem windows_length {α : Type} {n : Nat} (positive : 0 < n) (xs : List α) :
    (windows n xs).length = xs.length + 1 - n := by
  induction xs with
  | nil =>
      show 0 = 0 + 1 - n
      omega
  | cons x rest ih =>
      rw [windows, List.length_cons]
      split
      · rw [List.length_nil]
        omega
      · rw [List.length_cons, ih]
        omega

theorem matched_self (n : Nat) (tokens : List String) :
    matched n tokens tokens = total n tokens := by
  simp only [matched, total, Nat.min_self]
  rw [sum_of_eq_sum, ← List.sum_toFinset _ (nodup_erase_dups _)]
  have included : ∀ gram ∈ (windows n tokens : Multiset (List String)),
      gram ∈ (windows n tokens).eraseDups.toFinset := by
    intro gram member
    rw [List.mem_toFinset, List.mem_eraseDups]
    exact Multiset.mem_coe.1 member
  generalize (windows n tokens).eraseDups.toFinset = all at included ⊢
  have counts := Multiset.sum_count_eq_card included
  rw [lawful_beq_subsingleton List.instBEq instBEqOfDecidableEq]
  simpa only [Multiset.coe_count, Multiset.coe_card] using counts

end Gram

namespace Bleu

variable {library : Elementary} {reference candidate tokens : List String}

theorem precision_full {n : Nat} (full : (precisionRatio n reference candidate).Full)
    (few : candidate.length < 2 ^ 64) : precision n reference candidate = 1.0 := by
  have grams := Gram.windows_length_le n candidate
  have small : Gram.total n candidate ≤ 2 ^ 70 := by
    rw [Gram.total]
    omega
  obtain ⟨matched, some⟩ := full
  rw [precision, Ratio.toFloat, if_neg some.ne', matched]
  exact count_div_self some small

theorem precision_ratio_self {n : Nat} (positive : 0 < n) (within : n ≤ tokens.length) :
    (precisionRatio n tokens tokens).Full := by
  have length := Gram.windows_length positive tokens
  refine ⟨Gram.matched_self n tokens, ?_⟩
  show 0 < (Gram.windows n tokens).length
  omega

theorem fold_logs_one (anchored : library.Anchored) {lengths : List Nat}
    (one : ∀ n ∈ lengths, precision (n + 1) reference candidate = 1.0) {start : Float}
    (nothing : Worth .positive start 0) :
    ∃ sum, lengths.foldlM (addLog? library reference candidate) start = some sum ∧
      Worth .positive sum 0 := by
  induction lengths generalizing start with
  | nil => exact ⟨start, rfl, nothing⟩
  | cons n rest ih =>
      obtain ⟨first, later⟩ := List.forall_mem_cons.1 one
      have logarithm := beq_zero_iff.1 anchored.log_one
      have apart : ((1.0 : Float) == 0.0) = false := by decide +kernel
      rw [List.foldlM_cons]
      simp only [addLog?, first, apart, Bool.false_eq_true, if_false]
      exact ih later (nothing.zero_add_zero logarithm)

theorem log_precision_one (anchored : library.Anchored) {order : Nat}
    (one : ∀ n < order, precision (n + 1) reference candidate = 1.0) :
    ∃ sum, logPrecision reference candidate order library = some sum ∧ Worth .positive sum 0 := by
  apply fold_logs_one anchored
  · intro n member
    exact one n (List.mem_range.1 member)
  · rw [literal_zero]
    exact worth_zero

/-- There is no penalty for a candidate that is as long as its reference or longer. -/
theorem brevity_penalty_one (anchored : library.Anchored) {length length' : Nat}
    (long : length ≤ length')
    (some : 0 < length') (small : length' < 2 ^ 64) :
    brevityPenalty length length' library = 1.0 := by
  rw [brevityPenalty]
  split
  next longer => rfl
  next short =>
    obtain rfl := Nat.le_antisymm long (Nat.le_of_not_gt short)
    have one : length.toFloat / length.toFloat = 1.0 := count_div_self some (by omega)
    rw [if_neg some.ne', one]
    exact anchored.exp_zero _ (by decide +kernel)

theorem of_tokens_one (anchored : library.Anchored) {maxOrder : Nat} (positive : 0 < maxOrder)
    (some : reference ≠ []) (some' : candidate ≠ []) (few : candidate.length < 2 ^ 64)
    (long : reference.length ≤ candidate.length)
    (one : ∀ n < order maxOrder reference candidate, precision (n + 1) reference candidate = 1.0) :
    ofTokens maxOrder reference candidate library = 1.0 := by
  have length := List.length_pos_of_ne_nil some'
  have order_eq : order maxOrder reference candidate = min maxOrder candidate.length := by
    rw [order, Nat.max_eq_right long]
  have least : 0 < order maxOrder reference candidate := by omega
  obtain ⟨sum, found, nothing⟩ := log_precision_one anchored one
  rw [ofTokens, tokens_and_order_given positive some some', if_neg Bool.false_ne_true]
  simp only [found, brevity_penalty_one anchored long length few]
  obtain ⟨number, -, worth, -, -, nearest, -⟩ :=
    counts_worth (Nat.le_refl (order maxOrder reference candidate)) (by omega)
  have mean : Worth .positive (sum / (order maxOrder reference candidate).toFloat) 0 :=
    nothing.nothing_div worth (zero_lt_one.trans_le (nearest.one_le least))
  rw [anchored.exp_zero _ (beq_zero_iff.2 mean)]
  decide +kernel

theorem of_tokens_self (anchored : library.Anchored) {maxOrder : Nat} (positive : 0 < maxOrder)
    (some : tokens ≠ []) (few : tokens.length < 2 ^ 64) :
    ofTokens maxOrder tokens tokens library = 1.0 := by
  apply of_tokens_one anchored positive some some few (Nat.le_refl _)
  intro n within
  rw [order, Nat.max_self] at within
  exact precision_full (precision_ratio_self (Nat.succ_pos n) (by omega)) few

theorem of_tokens_nothing (library : Elementary) {maxOrder : Nat}
    {reference candidate : List String}
    (nothing : reference = [] ∨ candidate = [] ∨ maxOrder = 0) :
    ofTokens maxOrder reference candidate library = 0.0 := by
  have none : (reference.isEmpty || candidate.isEmpty || decide (maxOrder = 0)) = true := by
    rcases nothing with rfl | rfl | rfl
    · rfl
    · simp
    · simp
  rw [ofTokens, none, if_pos rfl]

/-- The score is a number from zero to one; it is zero where a side has no tokens or no grams are
looked at, and one for a text with tokens against itself. -/
theorem score_in_unit_and_own_score_one (lawful : library.Lawful) (anchored : library.Anchored)
    (maxOrder : Nat) (reference candidate : String) (small : reference.utf8ByteSize < 2 ^ 64)
    (small' : candidate.utf8ByteSize < 2 ^ 64) :
    InUnit (score maxOrder reference candidate library) ∧
      (Token.tokens reference = [] ∨ Token.tokens candidate = [] ∨ maxOrder = 0 →
        score maxOrder reference candidate library = 0.0) ∧
      (Token.tokens reference ≠ [] → 1 ≤ maxOrder →
        score maxOrder reference reference library = 1.0) := by
  refine ⟨?_, ?_, ?_⟩
  · exact in_unit_iff.2 (score_within lawful maxOrder small small')
  · exact of_tokens_nothing library
  · intro some positive
    have few := (Token.tokens_length_le reference).trans_lt small
    exact of_tokens_self anchored positive some few

/-- Three tokens of one kind, with grams of four asked for, against two others and against
themselves. -/
theorem repeated_words_score_one :
    InUnit (score 4 "x x x" "x y" coarseLibrary) ∧ score 4 "x x x" "x x x" coarseLibrary = 1.0 := by
  obtain ⟨unit, -, own⟩ := score_in_unit_and_own_score_one coarse_library_lawful
    coarse_library_anchored 4 "x x x" "x y" (by decide) (by decide)
  exact ⟨unit, own (by decide) (by decide)⟩

end Bleu

end Resemblance
