import RecurringPayments.Proofs.Number.Rounding

/-!
Binary floating point is lawful: the answers that figures give about themselves are those of the
numbers they stand for, and sums and quotients keep to the laws.
-/
namespace RecurringPayments

namespace Binary64

open Float.Model Float.Model.UnpackedFloat

/-! ### Questions answered exactly -/

theorem order_eq (x y : Float) :
    Scalar.order x y =
      (ofFloat x).value?.bind fun a => (ofFloat y).value?.map fun b => cmp a b := by
  have forward := compare_eq (isStorable_unpack x.toModel) (isStorable_unpack y.toModel)
  have backward := compare_eq (isStorable_unpack y.toModel) (isStorable_unpack x.toModel)
  have less (x y : Float) : x < y ↔ x.toModel.unpack.compare y.toModel.unpack = some .lt :=
    decide_eq_true_iff.trans beq_iff_eq
  have equal : (x == y) = true ↔ x.toModel.unpack.compare y.toModel.unpack = some .eq := by
    change (x.toModel.unpack.compare y.toModel.unpack == some .eq) = true ↔ _
    exact beq_iff_eq
  change (if x < y then some Ordering.lt else if (x == y) = true then some .eq
    else if y < x then some .gt else none) = _
  simp only [less, equal, forward, backward, ofFloat_eq_ofUnpacked]
  cases (ofUnpacked x.toModel.unpack).value? with
  | none => cases (ofUnpacked y.toModel.unpack).value? <;> simp
  | some a =>
    cases (ofUnpacked y.toModel.unpack).value? with
    | none => simp
    | some b =>
      rcases lt_trichotomy a b with h | h | h
      · simp [(cmp_eq_lt_iff a b).mpr h]
      · simp [h]
      · simp [(cmp_eq_gt_iff a b).mpr h, (cmp_eq_lt_iff b a).mpr h]

theorem power_pos (e : Int) : 0 < Decimal.power 2 e := Nat.two_pow_pos e.toNat

theorem zpow_eq_power_div (e : Int) :
    (2 : ℝ) ^ e = Decimal.power 2 e / Decimal.power 2 (-e) := by
  have cast (f : Int) : (Decimal.power 2 f : ℝ) = 2 ^ f.toNat := Nat.cast_pow 2 f.toNat
  rw [cast, cast, eq_div_iff (by positivity), ← zpow_natCast, ← zpow_natCast,
    ← zpow_add₀ two_ne_zero]
  congr 1
  omega

theorem value_eq_div (negative : Bool) (m : Nat) (e : Int) :
    (if negative then -(m * 2 ^ e) else m * 2 ^ e : ℝ) =
      (signed negative (m * Decimal.power 2 e) : ℝ) / Decimal.power 2 (-e) := by
  rw [zpow_eq_power_div]
  cases negative <;> simp [signed] <;> ring

theorem orderInt_eq (b : Binary64) (n : Int) :
    b.orderInt n = b.value?.map fun a => cmp a ((n : ℝ) : EReal) := by
  cases b with
  | undefined => rfl
  | infinite negative =>
    cases negative
    · simp [orderInt, value?, (cmp_eq_gt_iff _ _).mpr (EReal.coe_lt_top (n : ℝ))]
    · simp [orderInt, value?, (cmp_eq_lt_iff _ _).mpr (EReal.bot_lt_coe (n : ℝ))]
  | finite negative m e =>
    have unit : (0 : ℝ) < Decimal.power 2 (-e) := by exact_mod_cast power_pos (-e)
    have scaled : StrictMono fun k : Int => (k : ℝ) / Decimal.power 2 (-e) := fun a b h => by
      have : (a : ℝ) < b := by exact_mod_cast h
      exact div_lt_div_of_pos_right this unit
    have whole : (n : ℝ) = ((n * Decimal.power 2 (-e) : Int) : ℝ) / Decimal.power 2 (-e) := by
      rw [eq_div_iff unit.ne']
      push_cast
      ring
    rw [value?, Option.map_some, cmp_coe, value_eq_div, whole, scaled.cmp_map_eq, cmp_eq_compare]
    rfl

theorem floor?_eq {b : Binary64} {r : ℝ} (h : b.value? = some (r : EReal)) :
    b.floor? = some ⌊r⌋ := by
  cases b with
  | undefined => simp [value?] at h
  | infinite negative => cases negative <;> simp [value?] at h
  | finite negative m e =>
    rw [value?, Option.some_inj, EReal.coe_eq_coe_iff, value_eq_div] at h
    rw [floor?, ← h, Int.floor_div_natCast, Int.floor_intCast,
      Int.fdiv_eq_ediv_of_nonneg _ (by positivity)]

/-! ### Small numbers -/

theorem ofFloat_zero : ofFloat (Scalar.zero : Float) = .finite false 0 (-1074) := rfl

theorem ofFloat_one : ofFloat (Scalar.one : Float) = .finite false (2 ^ 52) (-52) := rfl

theorem ofFloat_half : ofFloat (Cadence.half : Float) = .finite false (2 ^ 52) (-53) := rfl

theorem exists_value {m : Nat} {e : Int} (pos : 0 < m) (h : IsCanonical m e) (high : e ≤ 971) :
    ∃ x : Float, (ofFloat x).value? = some ((m * 2 ^ e : ℝ) : EReal) := by
  have storable : IsStorable (.finite .positive m e pos) := ⟨h, high⟩
  refine ⟨.ofModel (Float.Model.pack (.finite .positive m e pos)), ?_⟩
  rw [value?_ofModel, unpack_pack storable, value?_finite_positive]

/-- A whole number of up to 53 digits, moved by so many digits, is a figure. -/
theorem exists_scaled {n : Nat} (h : n ≤ 2 ^ 53) {e : Int} (low : -1022 ≤ e) (high : e ≤ 970) :
    ∃ x : Float, (ofFloat x).value? = some ((n * 2 ^ e : ℝ) : EReal) := by
  rcases Nat.eq_zero_or_pos n with rfl | pos
  · refine ⟨Scalar.zero, ?_⟩
    rw [ofFloat_zero]
    simp [value?]
  rcases h.eq_or_lt with rfl | below
  · obtain ⟨x, hx⟩ := @exists_value (2 ^ 52) (e + 1) (by decide) ⟨by decide, by omega, .inl le_rfl⟩
      (by omega)
    refine ⟨x, hx.trans ?_⟩
    rw [zpow_add₀ two_ne_zero]
    congr 2
    push_cast
    ring
  · have bits : n.log2 < 53 := (Nat.log2_lt pos.ne').mpr below
    have lower : 2 ^ n.log2 ≤ n := Nat.log2_self_le pos.ne'
    have upper : n < 2 ^ (n.log2 + 1) := Nat.lt_log2_self
    have split : n.log2 + (52 - n.log2) = 52 := by omega
    have canonical : IsCanonical (n * 2 ^ (52 - n.log2)) (e - (52 - n.log2 : Nat)) := by
      refine ⟨?_, by omega, .inl ?_⟩
      · calc n * 2 ^ (52 - n.log2) < 2 ^ (n.log2 + 1) * 2 ^ (52 - n.log2) := by gcongr
          _ = 2 ^ 53 := by rw [← pow_add]; congr 1; omega
      · calc 2 ^ 52 = 2 ^ n.log2 * 2 ^ (52 - n.log2) := by rw [← pow_add, split]
          _ ≤ n * 2 ^ (52 - n.log2) := by gcongr
    obtain ⟨x, hx⟩ := exists_value (by positivity) canonical (by omega)
    refine ⟨x, hx.trans ?_⟩
    rw [zpow_sub₀ two_ne_zero, zpow_natCast]
    congr 2
    push_cast
    field_simp

theorem exists_half (n : Nat) (h : n ≤ 2 ^ 53) :
    ∃ x : Float, (ofFloat x).value? = some ((n / 2 : ℝ) : EReal) := by
  obtain ⟨x, hx⟩ := @exists_scaled n h (-1) (by decide) (by decide)
  rw [zpow_neg_one, ← div_eq_mul_inv] at hx
  exact ⟨x, hx⟩

/-! ### Signs -/

def IsUnsigned : UnpackedFloat → Prop
  | .notANumber => True
  | .infinity s | .zero s | .finite s _ _ _ => s = .positive

theorem isNegative_eq (x : Float) :
    Scalar.isNegative x =
      isMinus (Sign.ofBitVec (@unpackSign Format.binary64 x.toModel.toBits.toBitVec)) := by
  rw [isMinus_unpackSign]
  rfl

theorem isUnsigned_unpack {x : Float} (h : Scalar.isNegative x = false) :
    IsUnsigned x.toModel.unpack := by
  have sign : Sign.ofBitVec (@unpackSign Format.binary64 x.toModel.toBits.toBitVec) =
      .positive := by
    rw [isNegative_eq] at h
    cases hs : Sign.ofBitVec (@unpackSign Format.binary64 x.toModel.toBits.toBitVec) with
    | negative => simp [hs, isMinus] at h
    | positive => rfl
  rw [Float.Model.unpack, UnpackedFloat.unpack]
  split
  · split
    · exact sign
    · trivial
  · split
    · split
      · exact sign
      · exact sign
    · exact sign

theorem isNegative_pack {u : UnpackedFloat} (h : IsUnsigned u) :
    Scalar.isNegative (Float.ofModel (Float.Model.pack u)) = false := by
  have sign : @unpackSign Format.binary64 (UnpackedFloat.pack Format.binary64 u) =
      Sign.toBitVec .positive := by
    cases u with
    | notANumber => exact unpackSign_packComponents _ _ _
    | infinity s =>
      obtain rfl : s = .positive := h
      exact unpackSign_packComponents _ _ _
    | zero s =>
      obtain rfl : s = .positive := h
      exact unpackSign_packComponents _ _ _
    | finite s m e pos =>
      obtain rfl : s = .positive := h
      rw [UnpackedFloat.pack]
      split
      · exact unpackSign_packComponents _ _ _
      split
      · exact unpackSign_packComponents _ _ _
      · exact unpackSign_packComponents _ _ _
  rw [isNegative_eq]
  change isMinus
    (Sign.ofBitVec (@unpackSign Format.binary64 (UnpackedFloat.pack Format.binary64 u))) = _
  rw [sign, ofBitVec_toBitVec]
  rfl

theorem isUnsigned_roundWithAccuracy (m : Nat) (e : Int) (accuracy : Accuracy) :
    IsUnsigned (roundWithAccuracy Format.binary64 .positive m e accuracy) := by
  simp only [roundWithAccuracy]
  split <;> rfl

theorem isUnsigned_normalize {m : Int} (e : Int) (h : 0 ≤ m) :
    IsUnsigned (normalize Format.binary64 m e .positive) := by
  unfold UnpackedFloat.normalize
  rcases h.eq_or_lt with rfl | pos
  · rfl
  · rw [compare_gt_iff_gt.mpr pos]
    exact isUnsigned_roundWithAccuracy _ _ _

section

variable {u v : UnpackedFloat} (hu : IsUnsigned u) (hv : IsUnsigned v)
include hu hv

theorem isUnsigned_add : IsUnsigned (UnpackedFloat.add Format.binary64 u v) := by
  cases u <;> cases v <;> simp only [IsUnsigned] at hu hv <;> subst_vars
  all_goals first
    | trivial
    | rfl
    | exact isUnsigned_normalize _ (Int.add_nonneg (Int.natCast_nonneg _) (Int.natCast_nonneg _))

theorem isUnsigned_mul : IsUnsigned (UnpackedFloat.mul Format.binary64 u v) := by
  cases u <;> cases v <;> simp only [IsUnsigned] at hu hv <;> subst_vars
  all_goals first
    | trivial
    | rfl
    | exact isUnsigned_roundWithAccuracy _ _ _

theorem isUnsigned_div : IsUnsigned (UnpackedFloat.div Format.binary64 u v) := by
  cases u <;> cases v <;> simp only [IsUnsigned] at hu hv <;> subst_vars
  all_goals first
    | trivial
    | rfl
    | exact isUnsigned_roundWithAccuracy _ _ _

end

theorem isUnsigned_ofScientific (m : Nat) (e : Int) :
    IsUnsigned (UnpackedFloat.ofScientific Format.binary64 m e) := by
  rw [UnpackedFloat.ofScientific]
  split_ifs
  · rfl
  · rfl
  · rfl
  · exact isUnsigned_mul rfl rfl
  · exact isUnsigned_div rfl rfl

theorem isNegative_add {x y : Float} (hx : Scalar.isNegative x = false)
    (hy : Scalar.isNegative y = false) : Scalar.isNegative (Scalar.add x y) = false :=
  isNegative_pack (isUnsigned_add (isUnsigned_unpack hx) (isUnsigned_unpack hy))

theorem isNegative_mul {x y : Float} (hx : Scalar.isNegative x = false)
    (hy : Scalar.isNegative y = false) : Scalar.isNegative (Scalar.mul x y) = false :=
  isNegative_pack (isUnsigned_mul (isUnsigned_unpack hx) (isUnsigned_unpack hy))

theorem isNegative_div {x y : Float} (hx : Scalar.isNegative x = false)
    (hy : Scalar.isNegative y = false) : Scalar.isNegative (Scalar.div x y) = false :=
  isNegative_pack (isUnsigned_div (isUnsigned_unpack hx) (isUnsigned_unpack hy))

theorem isNegative_ofScientific (m : Nat) :
    Scalar.isNegative (Float.ofScientific m false 0) = false := by
  rw [Float.ofScientific]
  split
  · have whole : Scalar.isNegative m.toUInt64.toFloat = false :=
      isNegative_pack (isUnsigned_normalize _ (Int.natCast_nonneg _))
    exact isNegative_mul whole rfl
  · exact isNegative_pack (isUnsigned_ofScientific m 0)

theorem isNegative_ofInt (n : Nat) : Scalar.isNegative (Scalar.ofInt n : Float) = false := by
  change Scalar.isNegative (floatOfInt n) = false
  have sign : decide ((n : Int) < 0) = false := by simp
  rw [floatOfInt, floatOfDecimal, sign]
  simp only [Bool.false_eq_true, if_false, Int.natAbs_natCast]
  split_ifs
  · rfl
  · rfl
  · exact isNegative_ofScientific n

theorem nonneg {x : Float} {a : EReal} (h : Scalar.isNegative x = false)
    (hx : (ofFloat x).value? = some a) : 0 ≤ a := by
  have unsigned := isUnsigned_unpack h
  rw [ofFloat_eq_ofUnpacked] at hx
  cases hu : x.toModel.unpack with
  | notANumber => simp [hu] at hx
  | infinity s =>
    rw [hu] at hx unsigned
    obtain rfl : s = .positive := unsigned
    obtain rfl : ⊤ = a := by simpa using hx
    exact le_top
  | zero s =>
    obtain rfl : ((0 : ℝ) : EReal) = a := by simpa [hu] using hx
    exact le_rfl
  | finite s m e pos =>
    rw [hu] at hx unsigned
    obtain rfl : s = .positive := unsigned
    rw [value?_finite_positive, Option.some_inj] at hx
    subst hx
    have : (0 : ℝ) ≤ m * 2 ^ e := by positivity
    exact_mod_cast this

/-! ### Sums -/

theorem value?_add (x y : Float) :
    (ofFloat (Scalar.add x y)).value? =
      packed? (UnpackedFloat.add Format.binary64 x.toModel.unpack y.toModel.unpack) :=
  value?_ofModel _

theorem shiftLeft_mul_zpow (m : Nat) (e f : Int) (h : f ≤ e) :
    ((m <<< (e - f).toNat : Nat) * 2 ^ f : ℝ) = m * 2 ^ e := by
  rw [Nat.shiftLeft_eq, zpow_eq_mul_pow f e h]
  push_cast
  ring

theorem add_positive {m n : Nat} {e f : Int} (hm : 0 < m) (hn : 0 < n) :
    ∃ (k : Nat) (g : Int), 0 < k ∧ (k * 2 ^ g : ℝ) = m * 2 ^ e + n * 2 ^ f ∧
      UnpackedFloat.add Format.binary64 (.finite .positive m e hm) (.finite .positive n f hn) =
        UnpackedFloat.round Format.binary64 .positive k g := by
  set g := min e f with hg
  have left : 0 < m <<< (e - g).toNat := by
    rw [Nat.shiftLeft_eq]
    positivity
  refine ⟨m <<< (e - g).toNat + n <<< (f - g).toNat, g, Nat.add_pos_left left _, ?_, ?_⟩
  · rw [Nat.cast_add, add_mul, shiftLeft_mul_zpow m e g (min_le_left e f),
      shiftLeft_mul_zpow n f g (min_le_right e f)]
  · simp only [UnpackedFloat.add, decreaseExponent, ← hg, Sign.apply]
    unfold UnpackedFloat.normalize
    have sum : (0 : Int) < (m <<< (e - g).toNat : Nat) + (n <<< (f - g).toNat : Nat) :=
      Int.add_pos_of_pos_of_nonneg (Int.natCast_pos.mpr left) (Int.natCast_nonneg _)
    rw [compare_gt_iff_gt.mpr sum]
    rfl

theorem zero_or_positive {u : UnpackedFloat} {a : ℝ}
    (h : (ofUnpacked u).value? = some (a : EReal)) (ha : 0 ≤ a) :
    (∃ s, u = .zero s ∧ a = 0) ∨ ∃ m e hm, u = .finite .positive m e hm ∧ a = m * 2 ^ e := by
  cases u with
  | notANumber => simp at h
  | infinity s => cases s <;> simp at h
  | zero s =>
    rw [value?_zero, Option.some_inj, EReal.coe_eq_coe_iff] at h
    exact .inl ⟨s, rfl, h.symm⟩
  | finite s m e hm =>
    cases s with
    | negative =>
      rw [value?_finite_negative, Option.some_inj, EReal.coe_eq_coe_iff] at h
      have positive : (0 : ℝ) < m * 2 ^ e := by positivity
      linarith
    | positive =>
      rw [value?_finite_positive, Option.some_inj, EReal.coe_eq_coe_iff] at h
      exact .inr ⟨m, e, hm, rfl, h.symm⟩

theorem add_faithful {x y : Float} {a b : ℝ} (hx : (ofFloat x).value? = some (a : EReal))
    (hy : (ofFloat y).value? = some (b : EReal)) (ha : 0 ≤ a) (hb : 0 ≤ b) :
    ∃ v, (ofFloat (Scalar.add x y)).value? = some v ∧ IsFaithful figures (a + b) v := by
  have left : IsStorable x.toModel.unpack := isStorable_unpack _
  have right : IsStorable y.toModel.unpack := isStorable_unpack _
  rw [ofFloat_eq_ofUnpacked] at hx hy
  rw [value?_add]
  rcases zero_or_positive hx ha with ⟨s, hu, rfl⟩ | ⟨m, e, hm, hu, rfl⟩
  · rcases zero_or_positive hy hb with ⟨t, hv, rfl⟩ | ⟨n, f, hn, hv, rfl⟩
    · rw [hu, hv]
      refine ⟨((0 : ℝ) : EReal), ?_, by rw [add_zero]; exact .self _ _⟩
      cases s <;> cases t <;> exact packed?_zero _
    · rw [hv] at hy right
      rw [hu, hv, zero_add]
      exact ⟨_, (packed?_storable right).trans hy, .self _ _⟩
  · rcases zero_or_positive hy hb with ⟨t, hv, rfl⟩ | ⟨n, f, hn, hv, rfl⟩
    · rw [hu] at hx left
      rw [hu, hv, add_zero]
      exact ⟨_, (packed?_storable left).trans hx, .self _ _⟩
    · obtain ⟨k, g, pos, sum, rounded⟩ := @add_positive m n e f hm hn
      rw [hu, hv, rounded, ← sum]
      exact round_faithful pos

theorem zero_value : (ofFloat (Scalar.zero : Float)).value? = some ((0 : ℝ) : EReal) := by
  rw [ofFloat_zero, value?, if_neg Bool.false_ne_true, Nat.cast_zero, zero_mul]

theorem one_value : (ofFloat (Scalar.one : Float)).value? = some ((1 : ℝ) : EReal) := by
  rw [ofFloat_one, value?, if_neg Bool.false_ne_true]
  norm_num

theorem half_value : (ofFloat (Cadence.half : Float)).value? = some ((1 / 2 : ℝ) : EReal) := by
  rw [ofFloat_half, value?, if_neg Bool.false_ne_true]
  norm_num

end Binary64

open Binary64 in
noncomputable instance : LawfulScalar Float where
  value? x := (ofFloat x).value?
  order_eq := Binary64.order_eq
  orderInt_eq x n := Binary64.orderInt_eq (ofFloat x) n
  floor?_eq h := Binary64.floor?_eq h
  value?_zero := zero_value
  value?_one := one_value
  value?_half := half_value
  exists_half := Binary64.exists_half
  nonneg := Binary64.nonneg
  isNegative_ofInt := Binary64.isNegative_ofInt
  isNegative_add := Binary64.isNegative_add
  isNegative_div := Binary64.isNegative_div
  add_faithful := Binary64.add_faithful

end RecurringPayments
