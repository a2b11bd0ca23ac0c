import Mathlib
import Resemblance.Proofs.SignedSums

/-!
The products of deviations where a list has a single value throughout, in doubles. The mean of the
flat list is the value itself after every step; and the first mean of any list is its first element.
So in each product one factor is a zero, or not a number where infinity is met, and zero is left as
the sum unless some product is not a number. Products of numbers that are not too great are numbers.
-/

namespace Resemblance

open Float.Model (Format UnpackedFloat)
open Float.Model.UnpackedFloat

/-- Nothing is left: a zero of either sign, or what is not a number. -/
inductive Hollow : UnpackedFloat → Prop
  | undefined : Hollow .notANumber
  | zero (sign : Sign) : Hollow (.zero sign)

def Blank (x : Float) : Prop :=
  Hollow x.toModel.unpack

/-- The first double is not a number, or it stands for what the second one does. -/
def Follows (x y : Float) : Prop :=
  x.toModel.unpack = .notANumber ∨ Indistinct x.toModel.unpack y.toModel.unpack

section Hollow

variable {format : Format} {unpacked other : UnpackedFloat}

theorem undefined_add (other : UnpackedFloat) :
    UnpackedFloat.add format .notANumber other = .notANumber := by
  cases other <;> rfl

theorem undefined_div (other : UnpackedFloat) :
    UnpackedFloat.div format .notANumber other = .notANumber := by
  cases other <;> rfl

theorem unpack_pack_undefined : (Float.Model.pack .notANumber).unpack = .notANumber :=
  rfl

theorem Hollow.mul_left (hollow : Hollow unpacked) (other : UnpackedFloat) :
    Hollow (unpacked.mul format other) := by
  cases hollow with
  | undefined => exact .undefined
  | zero sign =>
      cases other with
      | notANumber => exact .undefined
      | infinity sign' => exact .undefined
      | zero sign' => exact .zero _
      | finite sign' mantissa exponent positive => exact .zero _

theorem Hollow.div (hollow : Hollow unpacked) (other : UnpackedFloat) :
    Hollow (unpacked.div format other) := by
  cases hollow with
  | undefined => exact .undefined
  | zero sign =>
      cases other with
      | notANumber => exact .undefined
      | infinity sign' => exact .zero _
      | zero sign' => exact .undefined
      | finite sign' mantissa exponent positive => exact .zero _

theorem Hollow.pack (hollow : Hollow unpacked) : Hollow (Float.Model.pack unpacked).unpack := by
  cases hollow with
  | undefined => exact .undefined
  | zero sign =>
      rw [unpack_pack_zero]
      exact .zero sign

theorem hollow_sub_self (unpacked : UnpackedFloat) : Hollow (unpacked.sub format unpacked) := by
  cases unpacked with
  | notANumber => exact .undefined
  | infinity sign => cases sign <;> exact .undefined
  | zero sign => cases sign <;> exact .zero _
  | finite sign mantissa exponent positive =>
      have nothing : UnpackedFloat.normalize format 0 (min exponent exponent) .positive =
          .zero .positive := rfl
      simp only [UnpackedFloat.sub, sub_self, nothing]
      exact .zero _

theorem Indistinct.hollow_sub (indistinct : Indistinct unpacked other) :
    Hollow (unpacked.sub format other) := by
  cases indistinct with
  | same => exact hollow_sub_self _
  | zeros sign sign' => cases sign <;> cases sign' <;> exact .zero _

theorem add_hollow (format : Format) (unpacked : UnpackedFloat) (hollow : Hollow other) :
    unpacked.add format other = .notANumber ∨ Indistinct (unpacked.add format other) unpacked := by
  cases hollow with
  | undefined => cases unpacked <;> exact .inl rfl
  | zero sign => exact .inr (add_zero_indistinct unpacked sign)

end Hollow

section Doubles

variable {x y z : Float}

/-- Nothing is lost where a double is unpacked and packed again. -/
theorem pack_unpacked (x : Float) : Float.Model.pack x.toModel.unpack = x.toModel :=
  congrArg Float.toModel (Float.ofBits_toBits x)

theorem eq_of_unpacked (same : x.toModel.unpack = y.toModel.unpack) : x = y := by
  have packed := congrArg Float.Model.pack same
  rw [pack_unpacked, pack_unpacked] at packed
  exact congrArg Float.ofModel packed

theorem unpacked_zero : (Scalar.zero : Float).toModel.unpack = .zero .positive :=
  unpack_zero

theorem Indistinct.packed {unpacked : UnpackedFloat} (same : Indistinct unpacked x.toModel.unpack) :
    Indistinct (Float.Model.pack unpacked).unpack x.toModel.unpack := by
  have packed := same.pack
  rwa [pack_unpacked] at packed

theorem Blank.mul_left (blank : Blank x) (y : Float) : Blank (x * y) :=
  (Hollow.mul_left blank _).pack

theorem Blank.mul_right (blank : Blank y) (x : Float) : Blank (x * y) := by
  rw [float_mul_comm]
  exact blank.mul_left x

theorem Blank.div (blank : Blank x) (y : Float) : Blank (x / y) :=
  (Hollow.div blank _).pack

/-- Adding nothing to a double leaves it as it is, unless the sum is not a number. -/
theorem Blank.add (blank : Blank y) (x : Float) : Follows (x + y) x := by
  rcases add_hollow Format.binary64 x.toModel.unpack blank with none | same
  · left
    rw [to_model_add, none, unpack_pack_undefined]
  · exact .inr same.packed

theorem Follows.trans (follows : Follows x y) (follows' : Follows y z) : Follows x z := by
  rcases follows with none | same
  · exact .inl none
  · rcases follows' with none | same'
    · left
      rw [none] at same
      generalize x.toModel.unpack = unpacked at same ⊢
      cases same with
      | same => rfl
    · exact .inr (same.trans same')

theorem Follows.sub_blank (follows : Follows x y) : Blank (y - x) := by
  rcases follows with none | same
  · rw [Blank, to_model_sub, none, unpacked_sub_eq_add_neg]
    cases y.toModel.unpack <;> exact Hollow.undefined.pack
  · exact same.symm.hollow_sub.pack

theorem undefined_plus (none : x.toModel.unpack = .notANumber) (y : Float) :
    (x + y).toModel.unpack = .notANumber := by
  rw [to_model_add, none, undefined_add, unpack_pack_undefined]

theorem undefined_over (none : x.toModel.unpack = .notANumber) (y : Float) :
    (x / y).toModel.unpack = .notANumber := by
  rw [to_model_div, none, undefined_div, unpack_pack_undefined]

/-- Also the sign of a zero is lost where it is added to the positive one. -/
theorem Blank.zero_add (blank : Blank x) :
    Scalar.zero + x = Scalar.zero ∨
      x.toModel.unpack = .notANumber ∧ (Scalar.zero + x).toModel.unpack = .notANumber := by
  have packed : (Scalar.zero + x).toModel =
      Float.Model.pack (UnpackedFloat.add Format.binary64 (.zero .positive) x.toModel.unpack) := by
    rw [to_model_add, unpacked_zero]
  unfold Blank at blank
  generalize x.toModel.unpack = unpacked at blank packed ⊢
  cases blank with
  | undefined =>
      rw [packed]
      exact .inr ⟨rfl, unpack_pack_undefined⟩
  | zero sign =>
      left
      apply eq_of_unpacked
      rw [packed, unpacked_zero]
      cases sign with
      | negative => exact unpack_pack_zero .positive
      | positive => exact unpack_pack_zero .positive

theorem sub_zero_eq (x : Float) : x - Scalar.zero = x := by
  have kept (unpacked : UnpackedFloat) : unpacked.sub Format.binary64 (.zero .positive) =
      unpacked := by
    cases unpacked with
    | notANumber => rfl
    | infinity sign => rfl
    | zero sign => cases sign <;> rfl
    | finite sign mantissa exponent positive => rfl
  have same : (x - Scalar.zero).toModel = x.toModel := by
    rw [to_model_sub, unpacked_zero, kept, pack_unpacked]
  exact congrArg Float.ofModel same

theorem div_one_indistinct (x : Float) :
    Indistinct (x / (1 : Nat).toFloat).toModel.unpack x.toModel.unpack := by
  have packed : (x / (1 : Nat).toFloat).toModel =
      Float.Model.pack (x.toModel.unpack.div Format.binary64 unpackedOne) := by
    rw [to_model_div, ← unpack_one, literal_one]
  by_cases none : x.toModel.unpack = .notANumber
  · rw [packed, none]
    exact .same _
  · obtain ⟨sign, ⟨number, worth⟩ | great⟩ := number_sided none
    · have quotient := worth.div worth_one zero_lt_one
      rw [sign_div_positive, div_one] at quotient
      have worth' := quotient.exactly worth.representable worth.not_excessive
      exact SameNumber.indistinct ⟨_, worth'.valued_signed, worth.valued_signed⟩
    · rw [packed, great]
      show Indistinct (Float.Model.pack (.infinity (sign / Sign.positive))).unpack _
      rw [sign_div_positive, unpack_pack_infinity]
      exact .same _

end Doubles

section Means

variable {running : RunningMean Float} {value : Float}

theorem RunningMean.first (value : Float) :
    Follows ((⟨0, Scalar.zero⟩ : RunningMean Float).add value).mean value := by
  have added : Indistinct ((Scalar.zero : Float).toModel.unpack.add Format.binary64
      ((value - Scalar.zero) / (1 : Nat).toFloat).toModel.unpack) value.toModel.unpack := by
    rw [unpacked_zero, sub_zero_eq]
    exact (zero_add_indistinct .positive _).trans (div_one_indistinct value)
  exact .inr added.packed

theorem RunningMean.steady (follows : Follows running.mean value) :
    Follows (running.add value).mean value :=
  ((follows.sub_blank.div _).add running.mean).trans follows

theorem RunningMean.tends (start : running = ⟨0, Scalar.zero⟩ ∨ Follows running.mean value) :
    Follows (running.add value).mean value := by
  rcases start with rfl | follows
  · exact RunningMean.first value
  · exact RunningMean.steady follows

end Means

section Sum

variable {terms : List Float}

/-- Nothing adds up to zero, unless some term is not a number. -/
theorem sum_of_blanks (blank : ∀ term ∈ terms, Blank term) :
    terms.foldl (· + ·) Scalar.zero = Scalar.zero ∨
      (terms.foldl (· + ·) Scalar.zero).toModel.unpack = .notANumber ∧
        ∃ term ∈ terms, term.toModel.unpack = .notANumber := by
  -- From the end: the last term is added to the sum of the others, which is zero or not a number.
  induction terms using List.reverseRecOn with
  | nil => exact .inl rfl
  | append_singleton terms term induction =>
      obtain ⟨blank, last⟩ := List.forall_mem_append.1 blank
      rw [List.foldl_append, List.foldl_cons, List.foldl_nil]
      rcases induction blank with same | ⟨none, other, member, undefined⟩
      · rw [same]
        have added := (last term (List.mem_singleton_self term)).zero_add
        exact added.imp_right fun both =>
          ⟨both.2, term, List.mem_append_right _ (List.mem_singleton_self term), both.1⟩
      · exact .inr ⟨undefined_plus none term, other, List.mem_append_left _ member, undefined⟩

end Sum

namespace RunningProducts

variable {running : RunningProducts Float} {pairs : List (Float × Float)} {value : Float}

def lefts (running : RunningProducts Float) : RunningMean Float :=
  ⟨running.count, running.left⟩

def rights (running : RunningProducts Float) : RunningMean Float :=
  ⟨running.count, running.right⟩

def start : RunningProducts Float :=
  ⟨0, Scalar.zero, Scalar.zero, Scalar.zero⟩

theorem start_products : start.products = Scalar.zero :=
  rfl

theorem lefts_add (running : RunningProducts Float) (pair : Float × Float) :
    (running.add pair).lefts = running.lefts.add pair.1 :=
  rfl

theorem rights_add (running : RunningProducts Float) (pair : Float × Float) :
    (running.add pair).rights = running.rights.add pair.2 :=
  rfl

def term (running : RunningProducts Float) (pair : Float × Float) : Float :=
  (pair.1 - (running.add pair).lefts.mean) * (pair.2 - running.rights.mean)

def terms (running : RunningProducts Float) : List (Float × Float) → List Float
  | [] => []
  | pair :: rest => running.term pair :: (running.add pair).terms rest

theorem count_follow (running : RunningProducts Float) (pairs : List (Float × Float)) :
    (pairs.foldl add running).count = running.count + pairs.length := by
  induction pairs generalizing running with
  | nil => rfl
  | cons pair rest induction =>
      rw [List.foldl_cons, induction, List.length_cons, ← Nat.add_assoc, Nat.add_right_comm]
      rfl

theorem products_eq (running : RunningProducts Float) (pairs : List (Float × Float)) :
    (pairs.foldl add running).products = (running.terms pairs).foldl (· + ·) running.products := by
  induction pairs generalizing running with
  | nil => rfl
  | cons pair rest induction => exact induction (running.add pair)

theorem terms_of_flat_left (flat : ∀ pair ∈ pairs, pair.1 = value)
    (start : running.lefts = ⟨0, Scalar.zero⟩ ∨ Follows running.lefts.mean value) :
    ∀ term ∈ running.terms pairs, Blank term := by
  induction pairs generalizing running with
  | nil => exact List.forall_mem_nil _
  | cons pair rest induction =>
      obtain ⟨same, flat⟩ := List.forall_mem_cons.1 flat
      have moved : Follows (running.add pair).lefts.mean value := by
        rw [lefts_add, same]
        exact RunningMean.tends start
      have left : Blank (pair.1 - (running.add pair).lefts.mean) := by
        rw [same]
        exact moved.sub_blank
      exact List.forall_mem_cons.2 ⟨left.mul_left _, induction flat (.inr moved)⟩

/-- Of the first pair it is the other factor that is blank: the list of the other elements is at its
first mean. -/
theorem terms_of_flat_right (flat : ∀ pair ∈ pairs, pair.2 = value)
    (start : running.lefts = ⟨0, Scalar.zero⟩ ∧ running.rights = ⟨0, Scalar.zero⟩ ∨
      Follows running.rights.mean value) :
    ∀ term ∈ running.terms pairs, Blank term := by
  induction pairs generalizing running with
  | nil => exact List.forall_mem_nil _
  | cons pair rest induction =>
      obtain ⟨same, flat⟩ := List.forall_mem_cons.1 flat
      have moved : Follows (running.add pair).rights.mean value := by
        rw [rights_add, same]
        exact RunningMean.tends (start.imp_left And.right)
      have first : Blank (running.term pair) := by
        unfold term
        rcases start with ⟨fresh, -⟩ | follows
        · rw [lefts_add, fresh]
          exact (RunningMean.first pair.1).sub_blank.mul_left _
        · rw [same]
          exact follows.sub_blank.mul_right _
      exact List.forall_mem_cons.2 ⟨first, induction flat (.inr moved)⟩

theorem terms_are_numbers {power : Nat} (small : power + 3 ≤ 1023)
    (sized : ∀ pair ∈ pairs, Sized (2 ^ power) pair.1 ∧ Sized (2 ^ power) pair.2)
    (left : Sized (2 ^ (power + 1)) running.lefts.mean)
    (right : Sized (2 ^ (power + 1)) running.rights.mean) :
    ∀ term ∈ running.terms pairs, term.toModel.unpack ≠ .notANumber := by
  induction pairs generalizing running with
  | nil => exact List.forall_mem_nil _
  | cons pair rest induction =>
      obtain ⟨⟨own, own'⟩, sized⟩ := List.forall_mem_cons.1 sized
      have moved : Sized (2 ^ (power + 1)) (running.add pair).lefts.mean := by
        rw [lefts_add]
        exact RunningMean.sized left own (by omega)
      have moved' : Sized (2 ^ (power + 1)) (running.add pair).rights.mean := by
        rw [rights_add]
        exact RunningMean.sized right own' (by omega)
      have wide : (2 : ℝ) ^ power ≤ 2 ^ (power + 1) :=
        pow_le_pow_right₀ one_le_two (Nat.le_succ power)
      have factor := (own.mono wide).sub moved (by omega)
      have factor' := (own'.mono wide).sub right (by omega)
      exact List.forall_mem_cons.2 ⟨factor.mul_is_number factor', induction sized moved moved'⟩

end RunningProducts

end Resemblance
