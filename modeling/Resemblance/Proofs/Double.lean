import Resemblance.Scalar

/-!
Laws of the arithmetic of doubles that hold in spite of rounding. Every operation unpacks its
operands, rounds the exact result and packs it again.
-/

namespace Resemblance

open Float.Model (Format UnpackedFloat)

section Operations

variable (x y : Float)

theorem to_model_add :
    (x + y).toModel = .pack (x.toModel.unpack.add Format.binary64 y.toModel.unpack) := rfl

theorem to_model_sub :
    (x - y).toModel = .pack (x.toModel.unpack.sub Format.binary64 y.toModel.unpack) := rfl

theorem to_model_mul :
    (x * y).toModel = .pack (x.toModel.unpack.mul Format.binary64 y.toModel.unpack) := rfl

theorem to_model_div :
    (x / y).toModel = .pack (x.toModel.unpack.div Format.binary64 y.toModel.unpack) := rfl

theorem to_model_sqrt : x.sqrt.toModel = .pack (x.toModel.unpack.sqrt Format.binary64) := rfl

end Operations

theorem sign_mul_comm (s t : UnpackedFloat.Sign) : s * t = t * s := by
  cases s with
  | negative =>
      cases t with
      | negative => rfl
      | positive => rfl
  | positive =>
      cases t with
      | negative => rfl
      | positive => rfl

/-- The exact product is the same in both orders, and only then it is rounded. -/
theorem unpacked_mul_comm (format : Format) (x y : UnpackedFloat) :
    x.mul format y = y.mul format x := by
  cases x with
  | notANumber =>
      cases y with
      | notANumber => rfl
      | infinity t => rfl
      | zero t => rfl
      | finite t n f positive => rfl
  | infinity s =>
      cases y with
      | notANumber => rfl
      | infinity t => exact congrArg UnpackedFloat.infinity (sign_mul_comm s t)
      | zero t => rfl
      | finite t n f positive => exact congrArg UnpackedFloat.infinity (sign_mul_comm s t)
  | zero s =>
      cases y with
      | notANumber => rfl
      | infinity t => rfl
      | zero t => exact congrArg UnpackedFloat.zero (sign_mul_comm s t)
      | finite t n f positive => exact congrArg UnpackedFloat.zero (sign_mul_comm s t)
  | finite s m e positive =>
      cases y with
      | notANumber => rfl
      | infinity t => exact congrArg UnpackedFloat.infinity (sign_mul_comm s t)
      | zero t => exact congrArg UnpackedFloat.zero (sign_mul_comm s t)
      | finite t n f positive' =>
          show UnpackedFloat.roundWithAccuracy format (s * t) (m * n) (e + f) .exact =
            UnpackedFloat.roundWithAccuracy format (t * s) (n * m) (f + e) .exact
          rw [sign_mul_comm, Nat.mul_comm, Int.add_comm]

theorem float_mul_comm (x y : Float) : x * y = y * x := by
  have same : (x * y).toModel =
      (y * x).toModel := by rw [to_model_mul, to_model_mul, unpacked_mul_comm]
  exact congrArg Float.ofModel same

end Resemblance
