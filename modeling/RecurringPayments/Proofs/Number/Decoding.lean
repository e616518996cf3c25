import RecurringPayments.Number.Binary64
import Mathlib

/-!
The numbers that floating-point figures stand for. The bits of a figure are decoded once by the
library and once by the logic's own model of its arithmetic; both give the same number, and
comparison is comparison of these numbers.
-/
namespace RecurringPayments.Binary64

open Float.Model Float.Model.UnpackedFloat

noncomputable def value? : Binary64 → Option EReal
  | .undefined => none
  | .infinite negative => some (if negative then ⊥ else ⊤)
  | .finite negative m e => some ((if negative then -(m * 2 ^ e) else m * 2 ^ e : ℝ) : EReal)

def isMinus : Sign → Bool
  | .negative => true
  | .positive => false

def ofUnpacked : UnpackedFloat → Binary64
  | .notANumber => .undefined
  | .infinity s => .infinite (isMinus s)
  | .zero s => .finite (isMinus s) 0 (-1074)
  | .finite s m e _ => .finite (isMinus s) m e

/-! ### Bits -/

theorem toNat_unpackMantissa (b : BitVec 64) :
    (@unpackMantissa Format.binary64 b).toNat = b.toNat % 2 ^ 52 := by
  simp [unpackMantissa, BitVec.extractLsb_toNat]

theorem toNat_unpackExponent (b : BitVec 64) :
    (@unpackExponent Format.binary64 b).toNat = b.toNat / 2 ^ 52 % 2 ^ 11 := by
  simp [unpackExponent, BitVec.extractLsb_toNat, Nat.shiftRight_eq_div_pow]

theorem toNat_unpackSign (b : BitVec 64) :
    (@unpackSign Format.binary64 b).toNat = b.toNat / 2 ^ 63 := by
  have bound := b.isLt
  simp [unpackSign, BitVec.extractLsb_toNat, Nat.shiftRight_eq_div_pow]
  omega

theorem isMinus_unpackSign (b : BitVec 64) :
    isMinus (Sign.ofBitVec (@unpackSign Format.binary64 b)) =
      decide (2 ^ 63 ≤ b.toNat) := by
  have bound := b.isLt
  have plus : @unpackSign Format.binary64 b = 0#1 ↔ b.toNat < 2 ^ 63 := by
    rw [← BitVec.toNat_inj, toNat_unpackSign, BitVec.toNat_ofNat]
    omega
  rw [Sign.ofBitVec]
  split
  · rw [isMinus, eq_comm, decide_eq_false_iff_not, not_le]
    exact plus.mp ‹_›
  · rw [isMinus, eq_comm, decide_eq_true_iff, ← not_lt]
    exact mt plus.mpr ‹_›

theorem toNat_one_append (b : BitVec 52) : (1#1 ++ b).toNat = 2 ^ 52 + b.toNat := by
  rw [BitVec.toNat_append, ← Nat.shiftLeft_add_eq_or_of_lt (BitVec.isLt _)]
  simp [Nat.shiftLeft_eq]

theorem fractionUnit_eq : fractionUnit = 2 ^ 52 := rfl

theorem signUnit_eq : signUnit = 2 ^ 63 := rfl

theorem ofFloat_eq_ofUnpacked (x : Float) : ofFloat x = ofUnpacked x.toModel.unpack := by
  let b := x.toBits.toBitVec
  have unpacked : x.toModel.unpack = UnpackedFloat.unpack Format.binary64 b := rfl
  have bits : x.toBits.toNat = b.toNat := rfl
  have exponent (n : Nat) (h : n < 2 ^ 11) :
      @unpackExponent Format.binary64 b = BitVec.ofNat 11 n ↔
        b.toNat / 2 ^ 52 % 2 ^ 11 = n := by
    rw [← BitVec.toNat_inj, toNat_unpackExponent, BitVec.toNat_ofNat, Nat.mod_eq_of_lt h]
  have mantissa : @unpackMantissa Format.binary64 b = 0#52 ↔ b.toNat % 2 ^ 52 = 0 := by
    rw [← BitVec.toNat_inj, toNat_unpackMantissa]
    rfl
  have full : (-1#11) = BitVec.ofNat 11 2047 := by decide
  have width : 2048 = 2 ^ 11 := rfl
  rw [unpacked, UnpackedFloat.unpack, ofFloat, bits, fractionUnit_eq, signUnit_eq, width]
  simp only [full, exponent 2047 (by decide), exponent 0 (by decide), mantissa, beq_iff_eq,
    ← isMinus_unpackSign]
  split
  · split <;> rfl
  · split
    · split
      · rename_i zero
        rw [zero]
        rfl
      · rename_i subnormal _
        simp only [ofUnpacked, toNat_unpackMantissa, toNat_unpackExponent, subnormal]
        rfl
    · have append : (1#1 ++ @unpackMantissa Format.binary64 b).toNat =
        2 ^ 52 + b.toNat % 2 ^ 52 := by
        rw [toNat_one_append, toNat_unpackMantissa]
      simp only [ofUnpacked, append, toNat_unpackExponent]
      rfl

/-! ### Canonical forms -/

/-- The mantissa fills its 53 bits, unless the exponent is the least. -/
structure IsCanonical (m : Nat) (e : Int) : Prop where
  bound : m < 2 ^ 53
  low : -1074 ≤ e
  normal : 2 ^ 52 ≤ m ∨ e = -1074

def IsStorable : UnpackedFloat → Prop
  | .finite _ m e _ => IsCanonical m e ∧ e ≤ 971
  | _ => True

theorem isStorable_unpack (x : Float.Model) : IsStorable x.unpack := by
  let b := x.toBits.toBitVec
  have unpacked : x.unpack = UnpackedFloat.unpack Format.binary64 b := rfl
  have field : b.toNat / 2 ^ 52 % 2 ^ 11 < 2 ^ 11 := Nat.mod_lt _ (by decide)
  have exponent (n : Nat) (h : n < 2 ^ 11) :
      @unpackExponent Format.binary64 b = BitVec.ofNat 11 n ↔
        b.toNat / 2 ^ 52 % 2 ^ 11 = n := by
    rw [← BitVec.toNat_inj, toNat_unpackExponent, BitVec.toNat_ofNat, Nat.mod_eq_of_lt h]
  have full : (-1#11) = BitVec.ofNat 11 2047 := by decide
  have bias : ((Format.exponentBias Format.binary64 : Nat) : Int) = 1023 := by decide
  rw [unpacked, UnpackedFloat.unpack]
  simp only [full, exponent 2047 (by decide), exponent 0 (by decide)]
  split
  · split <;> trivial
  · split
    · split
      · trivial
      · rename_i subnormal _
        simp only [IsStorable, toNat_unpackMantissa, toNat_unpackExponent, subnormal, bias]
        exact ⟨⟨by omega, by norm_num, .inr (by norm_num)⟩, by norm_num⟩
    · have append : (1#1 ++ @unpackMantissa Format.binary64 b).toNat =
        2 ^ 52 + b.toNat % 2 ^ 52 := by
        rw [toNat_one_append, toNat_unpackMantissa]
      simp only [IsStorable, append, toNat_unpackExponent, bias]
      refine ⟨⟨?_, ?_, .inl ?_⟩, ?_⟩
      all_goals push_cast; omega

/-! ### Comparison -/

theorem IsCanonical.lt_of_exponent_lt {m₁ m₂ : Nat} {e₁ e₂ : Int} (h₁ : IsCanonical m₁ e₁)
    (h₂ : IsCanonical m₂ e₂) (h : e₁ < e₂) : (m₁ * 2 ^ e₁ : ℝ) < m₂ * 2 ^ e₂ := by
  have normal : 2 ^ 52 ≤ m₂ := h₂.normal.resolve_right (by have := h₁.low; omega)
  have small : (m₁ : ℝ) < 2 ^ 53 := by exact_mod_cast h₁.bound
  have large : (2 : ℝ) ^ 52 ≤ m₂ := by exact_mod_cast normal
  have powers : (2 : ℝ) ^ (e₁ + 1) ≤ 2 ^ e₂ := zpow_le_zpow_right₀ (by norm_num) h
  calc (m₁ * 2 ^ e₁ : ℝ) < 2 ^ 53 * 2 ^ e₁ := by gcongr
    _ = 2 ^ 52 * 2 ^ (e₁ + 1) := by rw [zpow_add₀ (by norm_num)]; ring
    _ ≤ m₂ * 2 ^ e₂ := by gcongr

/-- Exponents first, then mantissas: in canonical form this is the order of the numbers. -/
theorem cmp_magnitude {m₁ m₂ : Nat} {e₁ e₂ : Int} (h₁ : IsCanonical m₁ e₁)
    (h₂ : IsCanonical m₂ e₂) :
    (compare e₁ e₂).then (compare m₁ m₂) = cmp (m₁ * 2 ^ e₁ : ℝ) (m₂ * 2 ^ e₂) := by
  rcases lt_trichotomy e₁ e₂ with h | rfl | h
  · rw [compare_lt_iff_lt.mpr h, (cmp_eq_lt_iff _ _).mpr (h₁.lt_of_exponent_lt h₂ h)]
    rfl
  · have mono : StrictMono fun n : Nat => (n * 2 ^ e₁ : ℝ) := fun a b hab => by
      have : (a : ℝ) < b := by exact_mod_cast hab
      exact mul_lt_mul_of_pos_right this (by positivity)
    rw [compare_eq_iff_eq.mpr rfl, mono.cmp_map_eq, cmp_eq_compare]
    rfl
  · rw [compare_gt_iff_gt.mpr h, (cmp_eq_gt_iff _ _).mpr (h₂.lt_of_exponent_lt h₁ h)]
    rfl

@[simp] theorem value?_notANumber : (ofUnpacked .notANumber).value? = none := rfl

@[simp] theorem value?_infinity_negative : (ofUnpacked (.infinity .negative)).value? = some ⊥ := rfl

@[simp] theorem value?_infinity_positive : (ofUnpacked (.infinity .positive)).value? = some ⊤ := rfl

@[simp] theorem value?_zero (s : Sign) :
    (ofUnpacked (.zero s)).value? = some ((0 : ℝ) : EReal) := by
  simp [ofUnpacked, value?]

@[simp] theorem value?_finite_negative (m : Nat) (e : Int) (h : 0 < m) :
    (ofUnpacked (.finite .negative m e h)).value? = some ((-(m * 2 ^ e) : ℝ) : EReal) := rfl

@[simp] theorem value?_finite_positive (m : Nat) (e : Int) (h : 0 < m) :
    (ofUnpacked (.finite .positive m e h)).value? = some ((m * 2 ^ e : ℝ) : EReal) := rfl

theorem cmp_coe (a b : ℝ) : cmp (a : EReal) b = cmp a b := EReal.coe_strictMono.cmp_map_eq a b

theorem compare_eq {u v : UnpackedFloat} (hu : IsStorable u) (hv : IsStorable v) :
    u.compare v =
      (ofUnpacked u).value?.bind fun a => (ofUnpacked v).value?.map fun b => cmp a b := by
  have positive {m : Nat} (e : Int) (hm : 0 < m) : (0 : ℝ) < m * 2 ^ e := by positivity
  have lt {a b : EReal} (h : a < b) : cmp a b = .lt := (cmp_eq_lt_iff a b).mpr h
  have gt {a b : EReal} (h : b < a) : cmp a b = .gt := (cmp_eq_gt_iff a b).mpr h
  have bottom (a : ℝ) : (⊥ : EReal) < a := EReal.bot_lt_coe a
  have top (a : ℝ) : (a : EReal) < ⊤ := EReal.coe_lt_top a
  cases u with
  | notANumber => rfl
  | infinity s =>
    cases v with
    | notANumber => cases s <;> rfl
    | infinity t => cases s <;> cases t <;> simp [UnpackedFloat.compare, lt, gt] <;> rfl
    | zero t => cases s <;> simp [UnpackedFloat.compare, lt, gt]
    | finite t n f hn =>
      cases s <;> cases t <;>
        simp [UnpackedFloat.compare, lt, gt, bottom, top, -EReal.coe_mul, -EReal.coe_neg]
  | zero s =>
    cases v with
    | notANumber => rfl
    | infinity t => cases t <;> simp [UnpackedFloat.compare, lt, gt]
    | zero t => simp [UnpackedFloat.compare]
    | finite t n f hn =>
      have := positive f hn
      cases t <;> simp only [UnpackedFloat.compare, value?_zero, value?_finite_negative,
        value?_finite_positive, Option.bind_some, Option.map_some, cmp_coe]
      · rw [(cmp_eq_gt_iff _ _).mpr (by linarith)]
      · rw [(cmp_eq_lt_iff _ _).mpr (by linarith)]
  | finite s m e hm =>
    have left := positive e hm
    cases v with
    | notANumber => cases s <;> rfl
    | infinity t =>
      cases s <;> cases t <;>
        simp [UnpackedFloat.compare, lt, gt, bottom, top, -EReal.coe_mul, -EReal.coe_neg]
    | zero t =>
      cases s <;> simp only [UnpackedFloat.compare, value?_zero, value?_finite_negative,
        value?_finite_positive, Option.bind_some, Option.map_some, cmp_coe]
      · rw [(cmp_eq_lt_iff _ _).mpr (by linarith)]
      · rw [(cmp_eq_gt_iff _ _).mpr (by linarith)]
    | finite t n f hn =>
      have right := positive f hn
      cases s <;> cases t <;> simp only [UnpackedFloat.compare, value?_finite_negative,
        value?_finite_positive, Option.bind_some, Option.map_some, cmp_coe,
        cmp_magnitude hu.1 hv.1]
      · have reversed : StrictAnti fun a : ℝ => -a := fun _ _ => neg_lt_neg
        rw [cmp_swap, ← reversed.cmp_map_eq]
      · rw [(cmp_eq_lt_iff _ _).mpr (by linarith)]
      · rw [(cmp_eq_gt_iff _ _).mpr (by linarith)]

end RecurringPayments.Binary64
