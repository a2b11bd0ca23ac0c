import Mathlib
import Resemblance.Consistency
import Resemblance.Proofs.RecordRange
import Resemblance.Proofs.SameNumber

/-!
Consistency in doubles. The running mean of scores in the unit interval stays between zero and two,
which is coarse but enough: rounding may take it above one, and never below zero. Whatever the
deviation is, the share that it takes is in the unit interval. So the average consistency of records
is a number, and averages can be compared.
-/

namespace Resemblance

open Float.Model (Format UnpackedFloat)
open Float.Model.UnpackedFloat

section Arithmetic

variable {sign : Sign} {x y : Float} {number number' : ℝ}

theorem unpacked_neg_neg (unpacked : UnpackedFloat) : unpacked.neg.neg = unpacked := by
  have twice (sign : Sign) : -(-sign) = sign := by
    cases sign with
    | negative => rfl
    | positive => rfl
  cases unpacked with
  | notANumber => rfl
  | infinity sign => exact congrArg UnpackedFloat.infinity (twice sign)
  | zero sign => exact congrArg UnpackedFloat.zero (twice sign)
  | finite sign mantissa exponent positive => simp only [UnpackedFloat.neg, twice]

theorem Worth.add_opposite (worth : Worth .positive x number) (worth' : Worth .negative y number')
    (less : number' ≤ number) : Computes .positive (number - number') (x + y) := by
  have difference : x.toModel.unpack.add Format.binary64 y.toModel.unpack =
      x.toModel.unpack.sub Format.binary64 y.toModel.unpack.neg := by
    rw [unpacked_sub_eq_add_neg, unpacked_neg_neg]
  exact ((Means.sub worth (Means.neg worth')).1 less).computes
    (congrArg Float.Model.pack difference)

/-- Divided by a count, even by one that is too great for a double, a number keeps its sign and does
not grow. -/
theorem Worth.div_count (worth : Worth sign x number) (count : Nat) :
    ∃ number' ≤ number, Worth sign (x / (count + 1).toFloat) number' := by
  obtain ⟨rounded, nearest, ⟨-, divisor⟩ | ⟨-, great⟩⟩ := count_computes (count + 1)
  · have least : 1 ≤ rounded := nearest.ge_of_ge representable_one (by simp)
    obtain ⟨quotient, nearest', computed⟩ := worth.div divisor (zero_lt_one.trans_le least)
    have low : quotient ≤ number :=
      nearest'.le_of_le worth.representable (div_le_self worth.nonneg least)
    rw [sign_div_positive] at computed
    rcases computed with ⟨-, worth'⟩ | ⟨great, -⟩
    · exact ⟨quotient, low, worth'⟩
    · exact absurd (le_trans great low) worth.not_excessive
  · exact ⟨0, worth.nonneg, worth.div_infinity great⟩

theorem sqrt_sided (number : x.sqrt.toModel.unpack ≠ .notANumber) : Sided .positive x.sqrt := by
  rw [to_model_sqrt] at number
  have known : x.toModel.unpack = .notANumber ∨ ∃ sign, Sided sign x :=
    unpack_sided x.toBits.toBitVec
  rcases known with none | ⟨sign, ⟨size, worth⟩ | great⟩
  · rw [none] at number
    exact absurd rfl number
  · cases sign with
    | positive => exact (Worth.sqrt worth).sided
    | negative =>
        refine .inl ⟨0, ?_⟩
        unfold Worth
        rw [to_model_sqrt]
        change Means .negative size x.toModel.unpack at worth
        generalize x.toModel.unpack = unpacked at worth number ⊢
        cases worth with
        | zero own =>
            change Means .positive 0 (Float.Model.pack (.zero own)).unpack
            rw [unpack_pack_zero]
            exact .zero own
        | finite mantissa exponent positive canonical =>
            have none : UnpackedFloat.sqrt Format.binary64
                (.finite .negative mantissa exponent positive) =
                .notANumber := rfl
            rw [none] at number
            exact absurd rfl number
  · cases sign with
    | positive =>
        right
        rw [to_model_sqrt, great]
        exact unpack_pack_infinity .positive
    | negative =>
        rw [great] at number
        exact absurd rfl number

end Arithmetic

section Means

variable {running : RunningMean Float} {x : Float} {xs : List Float}

/-- A step moves the mean up by one at most, from where it is not above the score; and it moves it
down by what it is above zero at most. -/
theorem RunningMean.within (within : Within 2 running.mean) (score : Within 1 x) :
    Within 2 (running.add x).mean := by
  obtain ⟨mean, most, worth⟩ := within
  obtain ⟨number, least, worth'⟩ := score
  show Within 2 (running.mean + (x - running.mean) / (running.count + 1).toFloat)
  rcases le_total mean number with up | down
  · obtain ⟨difference, found, nearest⟩ := (worth'.sub worth up).nearest
      ((sub_le_self number worth.nonneg).trans (least.trans (one_le_pow₀ one_le_two)))
    obtain ⟨part, shrunk, found'⟩ := found.div_count running.count
    have below : difference ≤ 1 :=
      nearest.le_of_le representable_one ((sub_le_self number worth.nonneg).trans least)
    have low : Within 1 running.mean := ⟨mean, up.trans least, worth⟩
    have added : Within 1 ((x - running.mean) / (running.count + 1).toFloat) :=
      ⟨part, shrunk.trans below, found'⟩
    exact low.add added worth_two.representable one_add_one_eq_two.le two_small
  · obtain ⟨difference, found, nearest⟩ := (worth'.sub_negative worth down).nearest
      ((sub_le_self mean worth'.nonneg).trans (most.trans two_small))
    obtain ⟨part, shrunk, found'⟩ := found.div_count running.count
    have below : difference ≤ mean :=
      nearest.le_of_le worth.representable (sub_le_self mean worth'.nonneg)
    have kept := worth.add_opposite found' (shrunk.trans below)
    exact kept.within worth_two.representable
      ((sub_le_self mean found'.nonneg).trans most) two_small

theorem RunningMean.within_follow (within : Within 2 running.mean) (scores : ∀ x ∈ xs, Within 1 x) :
    Within 2 (xs.foldl RunningMean.add running).mean := by
  induction xs generalizing running with
  | nil => exact within
  | cons x rest induction =>
      obtain ⟨score, scores⟩ := List.forall_mem_cons.1 scores
      exact induction (running.within within score) scores

theorem mean_within (scores : ∀ x ∈ xs, Within 1 x) : Within 2 (mean xs) :=
  RunningMean.within_follow ⟨0, zero_le_two, worth_zero⟩ scores

theorem deviation_sided {xs : List Float} (number : (deviation xs).toModel.unpack ≠ .notANumber) :
    Sided .positive (deviation xs) := by
  match xs with
  | [] => exact worth_zero.sided
  | [_] => exact worth_zero.sided
  | _ :: _ :: _ => exact sqrt_sided number

/-- The share of the mean that a deviation takes; all of it where the deviation is not a number. -/
theorem share_within (xs : List Float) : Within 1 (Scalar.atMost Scalar.one (deviation xs)) := by
  show Within 1 (if decide (deviation xs < (1 : Nat).toFloat) then deviation xs
      else (1 : Nat).toFloat)
  split
  next less =>
    have less := of_decide_eq_true less
    obtain ⟨value, valued, positive⟩ := (deviation_sided (lt_numbers less).1).valued
    exact valued.within positive ((valued.lt_iff worth_one.valued).1 less).le
  next => exact ⟨1, le_rfl, worth_one⟩

theorem consistency_within (scores : ∀ x ∈ xs, Within 1 x) : Within 2 (consistency xs) := by
  unfold consistency
  cases xs with
  | nil => exact ⟨0, zero_le_two, worth_zero⟩
  | cons x rest =>
      obtain ⟨share, least, worth⟩ := share_within (x :: rest)
      have left : Within 1 (Scalar.one - Scalar.atMost Scalar.one (deviation (x :: rest))) :=
        (worth_one.sub worth least).within representable_one (sub_le_self 1 worth.nonneg)
          (one_le_pow₀ one_le_two)
      exact (mean_within scores).mul left worth_two.representable (mul_one 2).le two_small

end Means

section Records

variable {record : Record} {records : List Record}

theorem Record.consistency_parts_within (own : ∀ score ∈ record.scores, InUnit score) :
    Within 1 record.composite ∧ Within 1 record.semanticSimilarity ∧
      ∀ similarity, record.structuralSimilarity = some similarity → Within 1 similarity := by
  have metrics := metrics_within fun score member => in_unit_iff.1 (own score member)
  refine ⟨metrics ("composite", record.composite) ?_,
    metrics ("semantic_similarity", record.semanticSimilarity) ?_, fun similarity found => ?_⟩
  · simp [Record.metrics]
  · simp [Record.metrics]
  · obtain ⟨scores, present, rfl⟩ := Option.map_eq_some_iff.1 found
    refine metrics ("structural_similarity", scores.similarity) ?_
    simp [Record.metrics, present]

theorem ConsistencyScores.average_sided
    (own : ∀ record ∈ records, ∀ score ∈ record.scores, InUnit score) :
    Sided .positive (ConsistencyScores.ofRecords records).average := by
  have parts : ∀ record ∈ records.filter Record.wasCompared, _ := fun record member =>
    Record.consistency_parts_within (own record (List.mem_filter.1 member).1)
  have overall := consistency_within
    (List.forall_mem_map.2 fun record member => (parts record member).1)
  have semantic := consistency_within
    (List.forall_mem_map.2 fun record member => (parts record member).2.1)
  have structural : Within 2
      (consistency
        ((records.filter Record.wasCompared).filterMap Record.structuralSimilarity)) := by
    apply consistency_within
    intro similarity member
    obtain ⟨record, compared, found⟩ := List.mem_filterMap.1 member
    exact (parts record compared).2.2 similarity found
  exact ((overall.sided.add structural.sided).add semantic.sided).div worth_three three_pos

end Records

end Resemblance
