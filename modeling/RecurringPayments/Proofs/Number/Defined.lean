import RecurringPayments.Proofs.Number.Floating

/-!
Every decimal is a figure that stands for a number: what is rounded, scaled by a power of ten and
packed is never the undefined figure.
-/
namespace RecurringPayments

namespace Binary64

open Float.Model Float.Model.UnpackedFloat

def IsDefined : UnpackedFloat → Prop
  | .notANumber => False
  | _ => True

theorem exists_value_iff {x : Float} :
    (∃ a, (ofFloat x).value? = some a) ↔ IsDefined x.toModel.unpack := by
  rw [ofFloat_eq_ofUnpacked]
  cases x.toModel.unpack with
  | notANumber => simp [IsDefined]
  | infinity s => cases s <;> simp [IsDefined]
  | zero s => simp [IsDefined]
  | finite s m e pos => cases s <;> simp [IsDefined, -EReal.coe_mul, -EReal.coe_neg]

theorem isDefined_pack {u : UnpackedFloat} (h : IsDefined u) :
    IsDefined (Float.Model.pack u).unpack := by
  cases u with
  | notANumber => exact h.elim
  | infinity s =>
    rw [unpack_pack (u := .infinity s) trivial]
    trivial
  | zero s =>
    rw [unpack_pack (u := .zero s) trivial]
    trivial
  | finite s m e pos =>
    have bias : ((Format.exponentBias Format.binary64 : Nat) : Int) = 1023 := by decide
    change IsDefined (UnpackedFloat.unpack Format.binary64 (UnpackedFloat.pack Format.binary64 _))
    rw [UnpackedFloat.pack]
    simp only [bias]
    split
    · rw [unpack_packComponents_infinity]
      trivial
    rename_i small
    split
    all_goals
      rw [UnpackedFloat.unpack]
      simp only [unpackExponent_packComponents]
      rw [if_neg]
      · split
        · split <;> trivial
        · trivial
    · intro full
      have := congrArg BitVec.toNat full
      simp at this
      omega
    · decide

theorem isDefined_roundWithAccuracy (s : Sign) (m : Nat) (e : Int) (accuracy : Accuracy) :
    IsDefined (roundWithAccuracy Format.binary64 s m e accuracy) := by
  simp only [roundWithAccuracy]
  split <;> trivial

theorem isDefined_normalize (m e : Int) (s : Sign) :
    IsDefined (normalize Format.binary64 m e s) := by
  unfold UnpackedFloat.normalize
  split
  · exact isDefined_roundWithAccuracy _ _ _ _
  · trivial
  · exact isDefined_roundWithAccuracy _ _ _ _

def IsFinite : UnpackedFloat → Prop
  | .finite .. => True
  | _ => False

instance : DecidablePred IsFinite
  | .finite .. => inferInstanceAs (Decidable True)
  | .notANumber | .infinity _ | .zero _ => inferInstanceAs (Decidable False)

section

variable {u v : UnpackedFloat} (hu : IsDefined u) (hv : IsFinite v)
include hu hv

theorem isDefined_mul : IsDefined (UnpackedFloat.mul Format.binary64 u v) := by
  cases u <;> cases v <;> simp only [IsDefined, IsFinite] at hu hv
  all_goals first
    | trivial
    | exact isDefined_roundWithAccuracy _ _ _ _

theorem isDefined_div : IsDefined (UnpackedFloat.div Format.binary64 u v) := by
  cases u <;> cases v <;> simp only [IsDefined, IsFinite] at hu hv
  all_goals first
    | trivial
    | exact isDefined_roundWithAccuracy _ _ _ _

end

theorem isDefined_ofScientific (m : Nat) (e : Int) :
    IsDefined (UnpackedFloat.ofScientific Format.binary64 m e) := by
  rw [UnpackedFloat.ofScientific]
  split_ifs
  · trivial
  · trivial
  · trivial
  · exact isDefined_mul trivial trivial
  · exact isDefined_div trivial trivial

theorem isFinite_powersOfTen : ∀ e : Fin 23,
    IsFinite (Float.exactlyRepresentablePowersOfTen[e]).toModel.unpack := by
  decide +kernel

theorem isDefined_floatOfScientific (m : Nat) (small : Bool) (e : Nat) :
    IsDefined (Float.ofScientific m small e).toModel.unpack := by
  rw [Float.ofScientific]
  split
  · rename_i exact
    have whole : IsDefined m.toUInt64.toFloat.toModel.unpack :=
      isDefined_pack (isDefined_normalize _ _ _)
    have power := isFinite_powersOfTen ⟨e, Nat.lt_succ_of_le exact.2⟩
    cases small with
    | true => exact isDefined_pack (isDefined_div whole power)
    | false => exact isDefined_pack (isDefined_mul whole power)
  · exact isDefined_pack (isDefined_ofScientific _ _)

theorem isDefined_neg {x : Float} (h : IsDefined x.toModel.unpack) :
    IsDefined (-x).toModel.unpack := by
  refine isDefined_pack ?_
  cases hx : x.toModel.unpack with
  | notANumber =>
    rw [hx] at h
    exact h.elim
  | _ => trivial

end Binary64

theorem exists_value?_infinite (negative : Bool) :
    ∃ a, LawfulScalar.value? (Scalar.infinite negative : Float) = some a := by
  have large : ∃ a, (Binary64.ofFloat (1.0 / 0.0)).value? = some a := ⟨_, rfl⟩
  have defined := Binary64.exists_value_iff.mp large
  refine Binary64.exists_value_iff.mpr ?_
  cases negative with
  | true => exact Binary64.isDefined_neg defined
  | false => exact defined

theorem exists_value?_ofDecimal (negative : Bool) (digits : Nat) (exponent : Int) :
    ∃ a, LawfulScalar.value? (Scalar.ofDecimal negative digits exponent : Float) = some a := by
  have size : Binary64.IsDefined (if digits == 0 ||
      ((Decimal.digitsOf digits).length + exponent : Int) < -400 then (0.0 : Float)
    else if 400 < ((Decimal.digitsOf digits).length + exponent : Int) then 1.0 / 0.0
    else Float.ofScientific digits (decide (exponent < 0)) exponent.natAbs).toModel.unpack := by
    split_ifs
    · exact Binary64.isDefined_floatOfScientific ..
    · exact Binary64.exists_value_iff.mp ⟨_, rfl⟩
    · exact Binary64.isDefined_floatOfScientific ..
  refine Binary64.exists_value_iff.mpr ?_
  cases negative with
  | true => exact Binary64.isDefined_neg size
  | false => exact size

end RecurringPayments
