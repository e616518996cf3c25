import RecurringPayments.Proofs.Number.Whole

/-!
Quotients of floating-point figures. A division keeps as many digits of the quotient as a figure
holds, and of what is left over only two bits. Kept as two further digits, these tell on which side
of every figure the true quotient lies, so that none is crossed. Between a mean of whole numbers and
a whole number that it differs from there is a figure, so no such number is crossed either.
-/
namespace RecurringPayments

namespace Binary64

open Float.Model Float.Model.UnpackedFloat

/-! ### What is left over, as two digits -/

/-- The residual bits that stand for an accuracy, read as two binary digits. -/
def residue : Accuracy → Nat
  | .exact => 0
  | .inexact .lt => 1
  | .inexact .eq => 2
  | .inexact .gt => 3

theorem residue_le (a : Accuracy) : residue a ≤ 3 := by
  cases a with
  | exact => decide
  | inexact side => cases side <;> decide

theorem residue_accuracyOfFraction_eq_zero_iff (r d : Nat) :
    residue (accuracyOfFraction r d) = 0 ↔ r = 0 := by
  rw [accuracyOfFraction]
  split
  · simp [residue, *]
  · cases compare (2 * r) d <;> simp [residue, *]

theorem shiftRight_add (em : ExtendedMantissa) (j k : Nat) : em >>> (j + k) = (em >>> j) >>> k := by
  induction k with
  | zero => rw [add_zero, shiftRight_zero]
  | succ k ih => rw [← add_assoc, shiftRight_succ, shiftRight_succ, ih]

theorem ofMantissaAndAccuracy_eq (m : Nat) (a : Accuracy) :
    ExtendedMantissa.ofMantissaAndAccuracy m a =
      (⟨4 * m + residue a, false, false⟩ : ExtendedMantissa) >>> 2 := by
  rw [shiftRight_succ, shiftRight_succ, shiftRight_zero]
  simp only [ExtendedMantissa.shiftRightOne, Nat.div_div_eq_div_mul]
  cases a with
  | exact => simp [ExtendedMantissa.ofMantissaAndAccuracy, residue]; omega
  | inexact side =>
    cases side <;> simp [ExtendedMantissa.ofMantissaAndAccuracy, residue] <;> omega

theorem roundWithAccuracy_eq_exact (s : Sign) {m : Nat} {e : Int} (a : Accuracy)
    (lower : e ≤ exponentFor m e)
    (same : exponentFor (4 * m + residue a) (e - 2) = exponentFor m e) :
    roundWithAccuracy Format.binary64 s m e a =
      roundWithAccuracy Format.binary64 s (4 * m + residue a) (e - 2) .exact := by
  have shifted : shiftToTargetExponent Format.binary64 m e a =
      shiftToTargetExponent Format.binary64 (4 * m + residue a) (e - 2) .exact := by
    have further : (exponentFor m e - (e - 2)).toNat = 2 + (exponentFor m e - e).toNat := by omega
    rw [shiftToTargetExponent, shiftToTargetExponent]
    simp only [targetExponent_eq, same, shiftToExponent, further, ofMantissaAndAccuracy_eq m a,
      shiftRight_add]
    refine Prod.ext rfl ?_
    push_cast
    ring
  simp only [roundWithAccuracy, shifted]

/-! ### The digits of a quotient -/

def quotientExponent (m n : Nat) (e f : Int) : Int :=
  min (e - f) (max ((m.log2 : Int) + e - (n.log2 + f) - 53) (-1074))

/-- The dividend, lengthened until its quotient has digits enough. -/
def dividend (m n : Nat) (e f : Int) : Nat := m * 2 ^ (e - f - quotientExponent m n e f).toNat

theorem divCore_eq (m n : Nat) (e f : Int) :
    divCore Format.binary64 m e n f =
      (dividend m n e f / n, quotientExponent m n e f,
       accuracyOfFraction (dividend m n e f % n) n) := by
  have bits : ((Format.binary64.mantissaBits : Nat) : Int) = 53 := by decide
  have least : Format.binary64.minExponent = -1074 := by decide
  have target : Format.binary64.targetExponent (totalExponent m e - totalExponent n f) =
      max ((m.log2 : Int) + e - (n.log2 + f) - 53) (-1074) := by
    rw [Format.targetExponent, totalExponent, totalExponent, bits, least]
    congr 1
    ring
  simp only [divCore, target, Nat.shiftLeft_eq, dividend, quotientExponent]

theorem quotient_eq (m n : Nat) (e f : Int) :
    (m * 2 ^ e / (n * 2 ^ f) : ℝ) = dividend m n e f / n * 2 ^ quotientExponent m n e f := by
  have lower : quotientExponent m n e f ≤ e - f := min_le_left _ _
  rw [mul_div_mul_comm, ← zpow_sub₀ two_ne_zero, zpow_eq_mul_pow _ _ lower, dividend]
  push_cast
  ring

/-- A whole number of units lies on the same side of a quotient and of its digits. -/
theorem residue_sides (p k : Nat) {n : Nat} (hn : 0 < n) :
    (p ≤ k * n → 4 * (p / n) + residue (accuracyOfFraction (p % n) n) ≤ 4 * k) ∧
      (k * n ≤ p → 4 * k ≤ 4 * (p / n) + residue (accuracyOfFraction (p % n) n)) := by
  have digits := residue_le (accuracyOfFraction (p % n) n)
  have exact := residue_accuracyOfFraction_eq_zero_iff (p % n) n
  constructor
  · intro le
    have most : p / n ≤ k := Nat.div_le_of_le_mul (by rwa [mul_comm])
    rcases most.lt_or_eq with below | rfl
    · omega
    · have left : p % n = 0 := by
        have := Nat.div_add_mod p n
        rw [mul_comm] at le
        omega
      rw [exact.mpr left, add_zero]
  · intro le
    have least : k ≤ p / n := (Nat.le_div_iff_mul_le hn).mpr le
    omega

theorem exponentFor_residue {q : Nat} {g : Int} (a : Accuracy) (filled : 2 ^ 52 ≤ q ∨ g ≤ -1074) :
    g ≤ exponentFor q g ∧ exponentFor (4 * q + residue a) (g - 2) = exponentFor q g := by
  have digits := residue_le a
  rcases Nat.eq_zero_or_pos q with rfl | pos
  · have least : g ≤ -1074 := filled.resolve_left (by decide)
    have short : (4 * 0 + residue a).log2 ≤ 1 := by
      rcases Nat.eq_zero_or_pos (4 * 0 + residue a) with none | some
      · rw [none]
        decide
      · exact Nat.le_of_lt_succ ((Nat.log2_lt some.ne').mpr (by omega))
    rw [exponentFor, exponentFor, Nat.log2_zero]
    omega
  · have lower : 2 ^ q.log2 ≤ q := Nat.log2_self_le pos.ne'
    have upper : q < 2 ^ (q.log2 + 1) := Nat.lt_log2_self
    have longer : (4 * q + residue a).log2 = q.log2 + 2 := by
      rw [Nat.log2_eq_iff (by omega), pow_succ 2 (q.log2 + 2), pow_add]
      rw [pow_succ] at upper
      omega
    have long : 2 ^ 52 ≤ q → 52 ≤ q.log2 := (Nat.le_log2 pos.ne').mpr
    rw [exponentFor, exponentFor, longer]
    omega

section

variable {m n : Nat} (e f : Int) (hm : 0 < m) (hn : 0 < n)
include hm hn

theorem quotient_filled :
    2 ^ 52 ≤ dividend m n e f / n ∨ quotientExponent m n e f ≤ -1074 := by
  rcases le_or_gt (quotientExponent m n e f) (-1074) with least | normal
  · exact .inr least
  left
  have lower : 2 ^ m.log2 ≤ m := Nat.log2_self_le hm.ne'
  have upper : n < 2 ^ (n.log2 + 1) := Nat.lt_log2_self
  have digits : 52 + (n.log2 + 1) ≤ m.log2 + (e - f - quotientExponent m n e f).toNat := by
    rw [quotientExponent] at normal ⊢
    omega
  rw [Nat.le_div_iff_mul_le hn]
  calc 2 ^ 52 * n ≤ 2 ^ 52 * 2 ^ (n.log2 + 1) := by gcongr
    _ = 2 ^ (52 + (n.log2 + 1)) := (pow_add ..).symm
    _ ≤ 2 ^ (m.log2 + (e - f - quotientExponent m n e f).toNat) :=
        Nat.pow_le_pow_right (by decide) digits
    _ = 2 ^ m.log2 * 2 ^ (e - f - quotientExponent m n e f).toNat := pow_add ..
    _ ≤ dividend m n e f := Nat.mul_le_mul_right _ lower

/-- Every canonical number lies on the same side of a quotient and of its digits. -/
theorem quotient_sides {k : Nat} {h : Int} (other : IsCanonical k h) :
    let digits : Nat := 4 * (dividend m n e f / n) +
      residue (accuracyOfFraction (dividend m n e f % n) n)
    ((m * 2 ^ e / (n * 2 ^ f) : ℝ) ≤ k * 2 ^ h →
        (digits * 2 ^ (quotientExponent m n e f - 2) : ℝ) ≤ k * 2 ^ h) ∧
      ((k * 2 ^ h : ℝ) ≤ m * 2 ^ e / (n * 2 ^ f) →
        (k * 2 ^ h : ℝ) ≤ digits * 2 ^ (quotientExponent m n e f - 2)) := by
  set g := quotientExponent m n e f with hg
  set p := dividend m n e f with hp
  intro digits
  have unit : (0 : ℝ) < 2 ^ g := by positivity
  have divisor : (0 : ℝ) < n := by exact_mod_cast hn
  have units : (digits * 2 ^ (g - 2) : ℝ) = digits / 4 * 2 ^ g := by
    rw [zpow_sub₀ two_ne_zero]
    norm_num
    ring
  rw [quotient_eq, ← hg, ← hp, units]
  rcases le_or_gt g h with coarse | fine
  · have multiple : (k * 2 ^ h : ℝ) = (k * 2 ^ (h - g).toNat : Nat) * 2 ^ g := by
      rw [zpow_eq_mul_pow g h coarse]
      push_cast
      ring
    obtain ⟨above, below⟩ := residue_sides p (k * 2 ^ (h - g).toNat) hn
    rw [multiple, mul_le_mul_iff_left₀ unit, mul_le_mul_iff_left₀ unit, mul_le_mul_iff_left₀ unit,
      mul_le_mul_iff_left₀ unit, div_le_iff₀ divisor, le_div_iff₀ divisor,
      div_le_iff₀' (by norm_num), le_div_iff₀' (by norm_num)]
    exact ⟨fun le => by exact_mod_cast above (by exact_mod_cast le),
      fun le => by exact_mod_cast below (by exact_mod_cast le)⟩
  · have low := other.low
    have normal : 2 ^ 52 ≤ p / n := (quotient_filled e f hm hn).resolve_right (by omega)
    have small : (k * 2 ^ h : ℝ) < 2 ^ 52 * 2 ^ g := by
      have power : IsCanonical (2 ^ 52) g := ⟨by decide, by omega, .inl le_rfl⟩
      exact_mod_cast other.lt_of_exponent_lt power fine
    have exact : (2 ^ 52 : ℝ) ≤ p / n := by
      rw [le_div_iff₀ divisor]
      exact_mod_cast (Nat.le_div_iff_mul_le hn).mp normal
    have kept : (2 ^ 52 : ℝ) ≤ digits / 4 := by
      have : 2 ^ 52 * 4 ≤ digits := by omega
      rw [le_div_iff₀ (by norm_num)]
      exact_mod_cast this
    refine ⟨fun le => absurd (le.trans_lt small) (not_lt.mpr (by gcongr)), fun _ => ?_⟩
    calc (k * 2 ^ h : ℝ) ≤ 2 ^ 52 * 2 ^ g := small.le
      _ ≤ digits / 4 * 2 ^ g := by gcongr

theorem div_finite_faithful :
    ∃ v, packed? (UnpackedFloat.div Format.binary64 (.finite .positive m e hm)
      (.finite .positive n f hn)) = some v ∧ IsFaithful figures (m * 2 ^ e / (n * 2 ^ f)) v := by
  set g := quotientExponent m n e f with hg
  set p := dividend m n e f with hp
  set a := accuracyOfFraction (p % n) n with ha
  have filled : 2 ^ 52 ≤ p / n ∨ g ≤ -1074 := quotient_filled e f hm hn
  obtain ⟨lower, same⟩ := exponentFor_residue a filled
  have some : 0 < 4 * (p / n) + residue a := by
    have lengthened : 0 < p := by
      rw [hp, dividend]
      positivity
    have left : residue a = 0 ↔ p % n = 0 := residue_accuracyOfFraction_eq_zero_iff _ n
    have parts := Nat.div_add_mod p n
    rcases Nat.eq_zero_or_pos (p / n) with none | some
    · rw [none, mul_zero, zero_add] at parts
      omega
    · omega
  have rounded : UnpackedFloat.div Format.binary64 (.finite .positive m e hm)
      (.finite .positive n f hn) =
        carried .positive (roundedAt (4 * (p / n) + residue a)
          (exponentFor (4 * (p / n) + residue a) (g - 2) - (g - 2)).toNat)
          (exponentFor (4 * (p / n) + residue a) (g - 2)) := by
    rw [← roundWithAccuracy_eq .positive some (by omega),
      ← roundWithAccuracy_eq_exact _ a lower same]
    simp only [UnpackedFloat.div, divCore_eq]
    rfl
  obtain ⟨v, hv, faithful⟩ := carried_faithful some (show g - 2 ≤ _ by omega)
  rw [rounded, hv]
  refine ⟨v, rfl, isFaithful_of_storable (by positivity) ?_ fun k h other high => ?_⟩
  · exact (faithful _ ⟨Scalar.zero, zero_value⟩).2 (EReal.coe_le_coe_iff.mpr (by positivity))
  · have listed : ((k * 2 ^ h : ℝ) : EReal) ∈ figures := by
      rcases Nat.eq_zero_or_pos k with rfl | pos
      · rw [Nat.cast_zero, zero_mul]
        exact ⟨Scalar.zero, zero_value⟩
      · exact exists_value pos other high
    obtain ⟨above, below⟩ := quotient_sides e f hm hn other
    exact ⟨fun le => (faithful _ listed).1 (EReal.coe_le_coe_iff.mpr (above le)),
      fun le => (faithful _ listed).2 (EReal.coe_le_coe_iff.mpr (below le))⟩

end

theorem value?_div (x y : Float) :
    (ofFloat (Scalar.div x y)).value? =
      packed? (UnpackedFloat.div Format.binary64 x.toModel.unpack y.toModel.unpack) :=
  value?_ofModel _

theorem div_faithful {x y : Float} {a b : ℝ} (hx : (ofFloat x).value? = some (a : EReal))
    (hy : (ofFloat y).value? = some (b : EReal)) (ha : 0 ≤ a) (hb : 0 < b) :
    ∃ v, (ofFloat (Scalar.div x y)).value? = some v ∧ IsFaithful figures (a / b) v := by
  rw [ofFloat_eq_ofUnpacked] at hx hy
  rw [value?_div]
  rcases zero_or_positive hy hb.le with ⟨-, -, none⟩ | ⟨n, f, hn, hv, rfl⟩
  · exact absurd none hb.ne'
  rcases zero_or_positive hx ha with ⟨s, hu, rfl⟩ | ⟨m, e, hm, hu, rfl⟩
  · rw [hu, hv, zero_div]
    exact ⟨_, packed?_zero _, .self _ _⟩
  · rw [hu, hv]
    exact div_finite_faithful e f hm hn

/-! ### Figures beside a fraction -/

section

variable {s c : Nat} (hc : 0 < c)
include hc

theorem exists_figure_below (hs : s < 2 ^ 22) {k : Int} (less : (s / c : ℝ) < k) :
    ∃ p : ℝ, (p : EReal) ∈ figures ∧ (s / c : ℝ) ≤ p ∧ p < k := by
  have divisor : (0 : ℝ) < c := by exact_mod_cast hc
  have positive : (0 : ℝ) < k := lt_of_le_of_lt (by positivity) less
  lift k to Nat using by exact_mod_cast positive.le
  rw [Int.cast_natCast] at less positive ⊢
  have whole : s < k * c := by
    rw [div_lt_iff₀ divisor] at less
    exact_mod_cast less
  rcases le_or_gt k (2 ^ 22) with small | large
  · -- The least distance that the denominator allows is at least one unit in the 22nd place.
    have apart : s * 2 ^ 22 + c ≤ k * c * 2 ^ 22 := by
      rcases le_or_gt c (2 ^ 22) with few | many
      · omega
      · have one : c ≤ k * c := Nat.le_mul_of_pos_left c (by exact_mod_cast positive)
        omega
    have one : 1 ≤ k * 2 ^ 22 := by
      have : 0 < k := by exact_mod_cast positive
      omega
    obtain ⟨x, hx⟩ := @exists_scaled (k * 2 ^ 22 - 1) (by omega) (-22) (by decide) (by decide)
    refine ⟨_, ⟨x, hx⟩, ?_, ?_⟩
    · rw [Nat.cast_sub one, div_le_iff₀ divisor]
      have : (s * 2 ^ 22 + c : ℝ) ≤ k * c * 2 ^ 22 := by exact_mod_cast apart
      norm_num at this ⊢
      linarith
    · rw [Nat.cast_sub one]
      norm_num
      linarith
  · obtain ⟨x, hx⟩ := @exists_scaled (2 ^ 22) (by decide) 0 (by decide) (by decide)
    refine ⟨_, ⟨x, hx⟩, ?_, ?_⟩
    · rw [zpow_zero, mul_one, div_le_iff₀ divisor]
      have : s ≤ 2 ^ 22 * c := hs.le.trans (Nat.le_mul_of_pos_right _ hc)
      exact_mod_cast this
    · rw [zpow_zero, mul_one]
      exact_mod_cast large

theorem exists_figure_above (hs : s < 2 ^ 22) (few : c ≤ 2 ^ 52) {k : Int}
    (less : (k : ℝ) < s / c) :
    ∃ p : ℝ, (p : EReal) ∈ figures ∧ k < p ∧ p ≤ (s / c : ℝ) := by
  have divisor : (0 : ℝ) < c := by exact_mod_cast hc
  rcases lt_or_ge k 0 with negative | nonneg
  · exact ⟨0, ⟨Scalar.zero, zero_value⟩, by exact_mod_cast negative, by positivity⟩
  lift k to Nat using nonneg
  rw [Int.cast_natCast] at less ⊢
  have whole : k * c < s := by
    rw [lt_div_iff₀ divisor] at less
    exact_mod_cast less
  rcases Nat.eq_zero_or_pos k with rfl | positive
  · obtain ⟨x, hx⟩ := @exists_scaled 1 (by decide) (-52) (by decide) (by decide)
    refine ⟨_, ⟨x, hx⟩, by norm_num, ?_⟩
    have one : (1 : ℝ) ≤ s := by exact_mod_cast (Nat.zero_lt_of_lt whole)
    have bound : (c : ℝ) ≤ 2 ^ 52 := by exact_mod_cast few
    rw [le_div_iff₀ divisor]
    norm_num
    linarith
  · have least : c ≤ k * c := Nat.le_mul_of_pos_left c positive
    have most : k ≤ k * c := Nat.le_mul_of_pos_right k hc
    obtain ⟨x, hx⟩ := @exists_scaled (k * 2 ^ 22 + 1) (by omega) (-22) (by decide) (by decide)
    refine ⟨_, ⟨x, hx⟩, by norm_num; linarith, ?_⟩
    have apart : k * c * 2 ^ 22 + c ≤ s * 2 ^ 22 := by omega
    have : (k * c * 2 ^ 22 + c : ℝ) ≤ s * 2 ^ 22 := by exact_mod_cast apart
    rw [le_div_iff₀ divisor]
    push_cast
    norm_num at this ⊢
    linarith

end

end Binary64

/-! ### Means of whole numbers -/

open LawfulScalar

section

variable {ns : List Nat} (nonempty : ns ≠ []) (few : ns.length ≤ 2 ^ 52)
include nonempty few

theorem mean_faithful (small : ns.sum ≤ 2 ^ 52) :
    ∃ v, value? (mean (ns.map fun n : Nat => Scalar.ofInt n) : Float) = some v ∧
      IsFaithful Binary64.figures (ns.sum / ns.length : ℝ) v := by
  obtain ⟨-, n, hn, held⟩ := HoldsWhole.laneSum_ofInt ns
  obtain rfl : ns.sum = n := Nat.cast_injective hn
  have count : (0 : ℝ) < ns.length := by exact_mod_cast List.length_pos_iff.mpr nonempty
  rw [mean, List.length_map]
  exact Binary64.div_faithful (held small) (Binary64.value?_ofInt few) (Nat.cast_nonneg _) count

theorem mean_sides (small : ns.sum < 2 ^ 22) {v : EReal}
    (hv : value? (mean (ns.map fun n : Nat => Scalar.ofInt n) : Float) = some v) (k : Int) :
    (((k : ℝ) : EReal) ≤ v → (k : ℝ) ≤ ns.sum / ns.length) ∧
      (v ≤ ((k : ℝ) : EReal) → (ns.sum / ns.length : ℝ) ≤ k) := by
  obtain ⟨w, hw, faithful⟩ := mean_faithful nonempty few (small.le.trans (by decide))
  obtain rfl : v = w := Option.some_inj.mp (hv.symm.trans hw)
  have count : 0 < ns.length := List.length_pos_iff.mpr nonempty
  constructor
  · intro le
    by_contra! less
    obtain ⟨p, listed, above, below⟩ := Binary64.exists_figure_below count small less
    have rounded := (faithful _ listed).1 (EReal.coe_le_coe_iff.mpr above)
    exact absurd (EReal.coe_le_coe_iff.mp (le.trans rounded)) (not_le.mpr below)
  · intro le
    by_contra! less
    obtain ⟨p, listed, above, below⟩ := Binary64.exists_figure_above count small few less
    have rounded := (faithful _ listed).2 (EReal.coe_le_coe_iff.mpr below)
    exact absurd (EReal.coe_le_coe_iff.mp (rounded.trans le)) (not_le.mpr above)

end

end RecurringPayments
