import RecurringPayments.Proofs.Number.Decoding
import RecurringPayments.Proofs.Number.Laws

/-!
Rounding to 53 binary digits, as the logic's model of floating point carries it out: bits are
shifted out of a mantissa, what is left is rounded, and the result is packed into a figure. No
figure lies strictly between a number and the figure it is rounded to.
-/
namespace RecurringPayments.Binary64

open Float.Model Float.Model.UnpackedFloat

/-! ### Bits shifted out -/

theorem shiftRight_zero (em : ExtendedMantissa) : em >>> 0 = em := rfl

theorem shiftRight_succ (em : ExtendedMantissa) (k : Nat) :
    em >>> (k + 1) = (em >>> k).shiftRightOne := rfl

theorem mantissa_shiftRight (em : ExtendedMantissa) (k : Nat) :
    (em >>> k).mantissa = em.mantissa / 2 ^ k := by
  induction k with
  | zero => rw [shiftRight_zero, pow_zero, Nat.div_one]
  | succ k ih =>
    rw [shiftRight_succ, ExtendedMantissa.shiftRightOne, ih, Nat.div_div_eq_div_mul, pow_succ]

theorem shiftRight_exact (m k : Nat) (h : 2 ^ k ∣ m) :
    ((⟨m, false, false⟩ : ExtendedMantissa) >>> k) = ⟨m / 2 ^ k, false, false⟩ := by
  induction k with
  | zero => rw [shiftRight_zero, pow_zero, Nat.div_one]
  | succ k ih =>
    have lower : 2 ^ k ∣ m := dvd_trans (pow_dvd_pow 2 k.le_succ) h
    have even : m / 2 ^ k % 2 = 0 := by
      obtain ⟨c, rfl⟩ := h
      rw [pow_succ, mul_assoc, Nat.mul_div_cancel_left _ (by positivity), Nat.mul_mod_right]
    rw [shiftRight_succ, ih lower, ExtendedMantissa.shiftRightOne, Nat.div_div_eq_div_mul, pow_succ]
    simp [even]

theorem roundedMantissa_exact (m : Nat) :
    ExtendedMantissa.roundedMantissa ⟨m, false, false⟩ = m := rfl

theorem roundedMantissa_bounds (em : ExtendedMantissa) :
    em.mantissa ≤ em.roundedMantissa ∧ em.roundedMantissa ≤ em.mantissa + 1 := by
  obtain ⟨m, round, sticky⟩ := em
  cases round <;> cases sticky <;>
    simp [ExtendedMantissa.roundedMantissa, ExtendedMantissa.accuracy, Accuracy.roundToNearestEven]
  omega

def roundedAt (m k : Nat) : Nat := ((⟨m, false, false⟩ : ExtendedMantissa) >>> k).roundedMantissa

theorem roundedAt_exact (m k : Nat) (h : 2 ^ k ∣ m) : roundedAt m k = m / 2 ^ k := by
  rw [roundedAt, shiftRight_exact m k h, roundedMantissa_exact]

theorem roundedAt_bounds (m k : Nat) :
    m / 2 ^ k ≤ roundedAt m k ∧ roundedAt m k ≤ m / 2 ^ k + 1 := by
  have bounds := roundedMantissa_bounds ((⟨m, false, false⟩ : ExtendedMantissa) >>> k)
  rwa [mantissa_shiftRight] at bounds

theorem roundedAt_le (m k n : Nat) (h : m ≤ n * 2 ^ k) : roundedAt m k ≤ n := by
  have below : m / 2 ^ k ≤ n := Nat.div_le_of_le_mul (by rwa [mul_comm])
  rcases below.lt_or_eq with lt | rfl
  · exact (roundedAt_bounds m k).2.trans lt
  · exact (roundedAt_exact m k ⟨m / 2 ^ k, le_antisymm (by rwa [mul_comm]) (Nat.mul_div_le m _)⟩).le

theorem le_roundedAt (m k n : Nat) (h : n * 2 ^ k ≤ m) : n ≤ roundedAt m k :=
  ((Nat.le_div_iff_mul_le (by positivity)).mpr h).trans (roundedAt_bounds m k).1

/-! ### The exponent of a result -/

/-- The exponent at which a number has 53 digits, or the least one. -/
def exponentFor (m : Nat) (e : Int) : Int := max (m.log2 + e - 52) (-1074)

theorem targetExponent_eq (m : Nat) (e : Int) :
    Format.binary64.targetExponent (totalExponent m e) = exponentFor m e := by
  have bits : ((Format.binary64.mantissaBits : Nat) : Int) = 53 := by decide
  have least : Format.binary64.minExponent = -1074 := by decide
  rw [Format.targetExponent, totalExponent, bits, least, exponentFor]
  congr 1
  ring

theorem log2_shiftLeft (m k : Nat) (h : 0 < m) : (m <<< k).log2 = m.log2 + k := by
  rw [Nat.shiftLeft_eq, Nat.log2_eq_iff (by positivity)]
  have lower : 2 ^ m.log2 ≤ m := Nat.log2_self_le h.ne'
  have upper : m < 2 ^ (m.log2 + 1) := Nat.lt_log2_self
  constructor
  · rw [pow_add]
    gcongr
  · calc m * 2 ^ k < 2 ^ (m.log2 + 1) * 2 ^ k := by gcongr
      _ = 2 ^ (m.log2 + k + 1) := by ring

theorem exponentFor_shiftLeft (m : Nat) (e : Int) (k : Nat) (h : 0 < m) :
    exponentFor (m <<< k) (e - k) = exponentFor m e := by
  rw [exponentFor, exponentFor, log2_shiftLeft m k h]
  congr 1
  push_cast
  ring

theorem IsCanonical.exponentFor_eq {m : Nat} {e : Int} (h : IsCanonical m e) (pos : 0 < m) :
    exponentFor m e = e := by
  have bits : m.log2 < 53 := (Nat.log2_lt pos.ne').mpr h.bound
  have low := h.low
  rw [exponentFor]
  rcases h.normal with normal | least
  · have : m.log2 = 52 := (Nat.log2_eq_iff pos.ne').mpr ⟨normal, h.bound⟩
    omega
  · omega

theorem isCanonical_div {m : Nat} {e : Int} (pos : 0 < m) (h : e ≤ exponentFor m e) :
    IsCanonical (m / 2 ^ (exponentFor m e - e).toNat) (exponentFor m e) := by
  have lower : 2 ^ m.log2 ≤ m := Nat.log2_self_le pos.ne'
  have upper : m < 2 ^ (m.log2 + 1) := Nat.lt_log2_self
  have shift : m.log2 ≤ 52 + (exponentFor m e - e).toNat := by
    rw [exponentFor] at h ⊢
    omega
  refine ⟨?_, le_max_right _ _, ?_⟩
  · rw [Nat.div_lt_iff_lt_mul (by positivity), ← pow_add]
    exact upper.trans_le (Nat.pow_le_pow_right (by decide) (by omega))
  · rcases max_choice ((m.log2 : Int) + e - 52) (-1074) with normal | least
    · left
      rw [Nat.le_div_iff_mul_le (by positivity), ← pow_add]
      have : 52 + (exponentFor m e - e).toNat = m.log2 := by
        rw [exponentFor] at h ⊢
        omega
      rwa [this]
    · exact .inr least

/-! ### The result of rounding -/

theorem roundedMantissa_shiftToExponent (m : Nat) (e g : Int) :
    (shiftToExponent m e .exact g).1.roundedMantissa = roundedAt m (g - e).toNat := rfl

theorem mantissa_shiftToExponent (m : Nat) (e g : Int) :
    (shiftToExponent m e .exact g).1.mantissa = m / 2 ^ (g - e).toNat :=
  mantissa_shiftRight _ _

theorem exponent_shiftToExponent (m : Nat) (e g : Int) :
    (shiftToExponent m e .exact g).2 = max e g := by
  simp only [shiftToExponent]
  omega

/-- A mantissa of 54 digits, the last of them zero, gives one of them to the exponent. -/
def carried (s : Sign) (m : Nat) (e : Int) : UnpackedFloat :=
  if h : m = 0 then .zero s
  else if m = 2 ^ 53 then .finite s (2 ^ 52) (e + 1) (by decide)
  else .finite s m e (Nat.pos_of_ne_zero h)

theorem roundWithAccuracy_eq (s : Sign) {m : Nat} {e : Int} (pos : 0 < m)
    (h : e ≤ exponentFor m e) :
    roundWithAccuracy Format.binary64 s m e .exact =
      carried s (roundedAt m (exponentFor m e - e).toNat) (exponentFor m e) := by
  set g := exponentFor m e with hg
  set r := roundedAt m (g - e).toNat with hr
  have quotient : IsCanonical (m / 2 ^ (g - e).toNat) g := isCanonical_div pos h
  have bounds : m / 2 ^ (g - e).toNat ≤ r ∧ r ≤ m / 2 ^ (g - e).toNat + 1 := roundedAt_bounds _ _
  have low : -1074 ≤ g := quotient.low
  have again : max e g = g := max_eq_right h
  rw [roundWithAccuracy]
  simp only [shiftToTargetExponent, targetExponent_eq, ← hg, roundedMantissa_shiftToExponent,
    mantissa_shiftToExponent, exponent_shiftToExponent, again, ← hr, carried]
  by_cases none : r = 0
  · simp [none]
  by_cases full : r = 2 ^ 53
  · have next : exponentFor r g = g + 1 := by
      rw [full, exponentFor, Nat.log2_two_pow]
      push_cast
      omega
    have shift : (g + 1 - g).toNat = 1 := by omega
    have up : max g (g + 1) = g + 1 := max_eq_right (by omega)
    simp only [next, shift, up]
    simp [full]
  · have canonical : IsCanonical r g := by
      have := quotient.bound
      exact ⟨by omega, low, quotient.normal.imp_left fun normal => normal.trans bounds.1⟩
    have same : exponentFor r g = g := canonical.exponentFor_eq (Nat.pos_of_ne_zero none)
    simp only [same, if_neg full]
    simp [none]

theorem round_eq (s : Sign) {m : Nat} {e : Int} (pos : 0 < m) :
    ∃ n f, 0 < n ∧ f ≤ exponentFor n f ∧ (n * 2 ^ f : ℝ) = m * 2 ^ e ∧
      UnpackedFloat.round Format.binary64 s m e =
        carried s (roundedAt n (exponentFor n f - f).toNat) (exponentFor n f) := by
  set j := (e - exponentFor m e).toNat with hj
  have moved : exponentFor (m <<< j) (e - j) = exponentFor m e := exponentFor_shiftLeft m e j pos
  have positive : 0 < m <<< j := by
    rw [Nat.shiftLeft_eq]
    positivity
  have lower : e - j ≤ exponentFor (m <<< j) (e - j) := by omega
  refine ⟨m <<< j, e - j, positive, lower, ?_, ?_⟩
  · rw [Nat.shiftLeft_eq, Nat.cast_mul, mul_assoc, Nat.cast_pow, Nat.cast_ofNat, ← zpow_natCast,
      ← zpow_add₀ two_ne_zero]
    congr 2
    ring
  · rw [UnpackedFloat.round]
    simp only [targetExponent_eq, decreaseExponent]
    exact roundWithAccuracy_eq s positive lower

/-! ### Packing -/

theorem unpackSign_packComponents (s : Sign) (e : BitVec 11) (m : BitVec 52) :
    @unpackSign Format.binary64 (packComponents Format.binary64 s e m) = s.toBitVec := by
  ext i hi
  obtain rfl : i = 0 := by omega
  simp only [unpackSign, packComponents, BitVec.getElem_cast, BitVec.getElem_extract]
  change (s.toBitVec ++ e ++ m : BitVec (1 + 11 + 52)).getLsbD 63 = _
  rw [BitVec.getLsbD_append, BitVec.getLsbD_append]
  rfl

theorem ofBitVec_toBitVec (s : Sign) : Sign.ofBitVec s.toBitVec = s := by
  cases s <;> rfl

theorem unpack_packComponents_infinity (s : Sign) :
    UnpackedFloat.unpack Format.binary64 (packedInfinity Format.binary64 s) = .infinity s := by
  rw [packedInfinity, UnpackedFloat.unpack]
  simp

theorem unpack_pack_normal (s : Sign) {m : Nat} {e : Int} (pos : 0 < m) (bound : m < 2 ^ 53)
    (normal : 2 ^ 52 ≤ m) (low : -1074 ≤ e) (high : e ≤ 971) :
    UnpackedFloat.unpack Format.binary64 (UnpackedFloat.pack Format.binary64 (.finite s m e pos)) =
      .finite s m e pos := by
  have bits : m.log2 = 52 := (Nat.log2_eq_iff pos.ne').mpr ⟨normal, bound⟩
  have bias : ((Format.exponentBias Format.binary64 : Nat) : Int) = 1023 := by decide
  have width : (e + 1023 + (52 : Nat)).toNat < 2 ^ 11 - 1 := by omega
  have mantissa : (1#1 ++ BitVec.ofNat 52 m).toNat = m := by
    rw [toNat_one_append, BitVec.toNat_ofNat]
    omega
  set field := BitVec.ofNat 11 (e + 1023 + (52 : Nat)).toNat with hfield
  have toNat : field.toNat = (e + 1023 + (52 : Nat)).toNat := by
    rw [hfield, BitVec.toNat_ofNat, Nat.mod_eq_of_lt (by omega)]
  have full : field ≠ -1#11 := by
    intro h
    have := congrArg BitVec.toNat h
    rw [toNat, show (-1#11).toNat = 2047 from rfl] at this
    omega
  have empty : field ≠ 0#11 := by
    intro h
    have := congrArg BitVec.toNat h
    rw [toNat, BitVec.toNat_ofNat] at this
    omega
  rw [UnpackedFloat.pack]
  simp only [bits, bias]
  rw [if_neg (by omega), if_pos (by decide), ← hfield, UnpackedFloat.unpack]
  simp only [unpackExponent_packComponents, unpackMantissa_packComponents,
    unpackSign_packComponents, ofBitVec_toBitVec, if_neg full, if_neg empty, mantissa, toNat, bias]
  congr 1
  omega

theorem unpack_pack_subnormal (s : Sign) {m : Nat} (pos : 0 < m) (bound : m < 2 ^ 52) :
    UnpackedFloat.unpack Format.binary64
        (UnpackedFloat.pack Format.binary64 (.finite s m (-1074) pos)) =
      .finite s m (-1074) pos := by
  have bits : m.log2 < 52 := (Nat.log2_lt pos.ne').mpr bound
  have bias : ((Format.exponentBias Format.binary64 : Nat) : Int) = 1023 := by decide
  have digits : Format.mantissaBits Format.binary64 = 53 := by decide
  have mantissa : (BitVec.ofNat 52 m).toNat = m := by
    rw [BitVec.toNat_ofNat]
    omega
  have some : BitVec.ofNat 52 m ≠ 0#52 := by
    intro h
    have := congrArg BitVec.toNat h
    rw [mantissa, BitVec.toNat_ofNat] at this
    omega
  have apart : (0#11) ≠ -1#11 := by decide
  rw [UnpackedFloat.pack]
  simp only [bias, digits]
  rw [if_neg (by norm_num), if_neg (by omega), UnpackedFloat.unpack]
  simp only [unpackExponent_packComponents, unpackMantissa_packComponents,
    unpackSign_packComponents,
    ofBitVec_toBitVec, if_neg apart, if_true, dif_neg some, mantissa, bias]
  congr 1

theorem unpack_pack {u : UnpackedFloat} (h : IsStorable u) : (Float.Model.pack u).unpack = u := by
  change UnpackedFloat.unpack Format.binary64 (UnpackedFloat.pack Format.binary64 u) = u
  cases u with
  | notANumber => rfl
  | infinity s => exact unpack_packComponents_infinity s
  | zero s => cases s <;> rfl
  | finite s m e pos =>
    obtain ⟨canonical, high⟩ := h
    by_cases normal : 2 ^ 52 ≤ m
    · exact unpack_pack_normal s pos canonical.bound normal canonical.low high
    · obtain rfl : e = -1074 := canonical.normal.resolve_left normal
      exact unpack_pack_subnormal s pos (not_le.mp normal)

theorem unpack_pack_of_lt (s : Sign) {m : Nat} {e : Int} (pos : 0 < m) (h : 971 < e) :
    (Float.Model.pack (.finite s m e pos)).unpack = .infinity s := by
  have bias : ((Format.exponentBias Format.binary64 : Nat) : Int) = 1023 := by decide
  change UnpackedFloat.unpack Format.binary64 (UnpackedFloat.pack Format.binary64 _) = _
  rw [UnpackedFloat.pack]
  simp only [bias]
  rw [if_pos (by omega), unpack_packComponents_infinity]

/-! ### No figure is crossed -/

theorem zpow_eq_mul_pow (e g : Int) (h : e ≤ g) : (2 : ℝ) ^ g = 2 ^ (g - e).toNat * 2 ^ e := by
  rw [← zpow_natCast, ← zpow_add₀ two_ne_zero]
  congr 1
  omega

theorem roundedAt_sides (m n : Nat) (e g : Int) (h : e ≤ g) :
    ((m * 2 ^ e : ℝ) ≤ n * 2 ^ g → roundedAt m (g - e).toNat ≤ n) ∧
      ((n * 2 ^ g : ℝ) ≤ m * 2 ^ e → n ≤ roundedAt m (g - e).toNat) := by
  have unit : (0 : ℝ) < 2 ^ e := by positivity
  rw [zpow_eq_mul_pow e g h, ← mul_assoc, mul_le_mul_iff_left₀ unit, mul_le_mul_iff_left₀ unit]
  norm_cast
  exact ⟨roundedAt_le m _ n, le_roundedAt m _ n⟩

/-- Rounding leaves a number on its side of every canonical one. -/
theorem roundedAt_faithful {m n : Nat} {e f : Int} (pos : 0 < m) (h : e ≤ exponentFor m e)
    (other : IsCanonical n f) :
    ((m * 2 ^ e : ℝ) ≤ n * 2 ^ f →
        (roundedAt m (exponentFor m e - e).toNat * 2 ^ exponentFor m e : ℝ) ≤ n * 2 ^ f) ∧
      ((n * 2 ^ f : ℝ) ≤ m * 2 ^ e →
        (n * 2 ^ f : ℝ) ≤ roundedAt m (exponentFor m e - e).toNat * 2 ^ exponentFor m e) := by
  set g := exponentFor m e with hg
  set r := roundedAt m (g - e).toNat with hr
  have unit : (0 : ℝ) < 2 ^ g := by positivity
  rcases le_or_gt g f with coarse | fine
  · have multiple : (n * 2 ^ f : ℝ) = (n * 2 ^ (f - g).toNat : Nat) * 2 ^ g := by
      rw [zpow_eq_mul_pow g f coarse]
      push_cast
      ring
    obtain ⟨above, below⟩ := roundedAt_sides m (n * 2 ^ (f - g).toNat) e g h
    rw [multiple, mul_le_mul_iff_left₀ unit, mul_le_mul_iff_left₀ unit]
    exact ⟨fun le => by exact_mod_cast above le, fun le => by exact_mod_cast below le⟩
  · have quotient : IsCanonical (m / 2 ^ (g - e).toNat) g := isCanonical_div pos h
    have low := other.low
    have normal : 2 ^ 52 ≤ m / 2 ^ (g - e).toNat := quotient.normal.resolve_right (by omega)
    have filled : 2 ^ 52 * 2 ^ (g - e).toNat ≤ m :=
        (Nat.le_div_iff_mul_le (by positivity)).mp normal
    have digits : (2 : ℝ) ^ 52 ≤ r := by exact_mod_cast le_roundedAt m _ _ filled
    have exact : (2 ^ 52 * 2 ^ g : ℝ) ≤ m * 2 ^ e := by
      rw [zpow_eq_mul_pow e g h, ← mul_assoc]
      gcongr
      exact_mod_cast filled
    have small : (n * 2 ^ f : ℝ) < 2 ^ 52 * 2 ^ g := by
      have power : IsCanonical (2 ^ 52) g := ⟨by decide, quotient.low, .inl le_rfl⟩
      have := other.lt_of_exponent_lt power fine
      exact_mod_cast this
    refine ⟨fun le => absurd (exact.trans le) (not_le.mpr small), fun _ => ?_⟩
    calc (n * 2 ^ f : ℝ) ≤ 2 ^ 52 * 2 ^ g := small.le
      _ ≤ r * 2 ^ g := by gcongr

def figures : Set EReal := {c | ∃ x : Float, (ofFloat x).value? = some c}

theorem isFaithful_of_storable {exact : ℝ} {result : EReal} (pos : 0 < exact) (nonneg : 0 ≤ result)
    (h : ∀ n f, IsCanonical n f → f ≤ 971 →
      (exact ≤ n * 2 ^ f → result ≤ ((n * 2 ^ f : ℝ) : EReal)) ∧
        (n * 2 ^ f ≤ exact → ((n * 2 ^ f : ℝ) : EReal) ≤ result)) :
    IsFaithful figures exact result := by
  rintro c ⟨x, hx⟩
  have storable : IsStorable x.toModel.unpack := isStorable_unpack _
  rw [ofFloat_eq_ofUnpacked] at hx
  have positive : (0 : EReal) < exact := by exact_mod_cast pos
  have small {c : EReal} (hc : c ≤ 0) :
      ((exact : EReal) ≤ c → result ≤ c) ∧ (c ≤ exact → c ≤ result) :=
    ⟨fun le => absurd (le.trans hc) (not_le.mpr positive), fun _ => hc.trans nonneg⟩
  cases hu : x.toModel.unpack with
  | notANumber => simp [hu] at hx
  | infinity s =>
    cases s with
    | negative =>
      obtain rfl : ⊥ = c := by simpa [hu] using hx
      exact small bot_le
    | positive =>
      obtain rfl : ⊤ = c := by simpa [hu] using hx
      exact ⟨fun _ => le_top, fun le => absurd le (not_le.mpr (EReal.coe_lt_top _))⟩
  | zero s =>
    obtain rfl : ((0 : ℝ) : EReal) = c := by simpa [hu] using hx
    exact small le_rfl
  | finite s m e hm =>
    rw [hu] at hx storable
    cases s with
    | negative =>
      rw [value?_finite_negative, Option.some_inj] at hx
      subst hx
      have : -(m * 2 ^ e : ℝ) ≤ 0 := by
        have : (0 : ℝ) ≤ m * 2 ^ e := by positivity
        linarith
      exact small (by exact_mod_cast this)
    | positive =>
      rw [value?_finite_positive, Option.some_inj] at hx
      subst hx
      obtain ⟨above, below⟩ := h m e storable.1 storable.2
      exact ⟨fun le => above (by exact_mod_cast le), fun le => below (by exact_mod_cast le)⟩

noncomputable def packed? (u : UnpackedFloat) : Option EReal :=
  (ofUnpacked (Float.Model.pack u).unpack).value?

theorem value?_ofModel (m : Float.Model) :
    (ofFloat (.ofModel m)).value? = (ofUnpacked m.unpack).value? := by
  rw [ofFloat_eq_ofUnpacked]

theorem packed?_storable {u : UnpackedFloat} (h : IsStorable u) :
    packed? u = (ofUnpacked u).value? := by
  rw [packed?, unpack_pack h]

theorem packed?_zero (s : Sign) : packed? (.zero s) = some ((0 : ℝ) : EReal) := by
  have storable : IsStorable (.zero s) := trivial
  rw [packed?_storable storable, value?_zero]

theorem packed?_canonical {m : Nat} {e : Int} (pos : 0 < m) (h : IsCanonical m e) :
    packed? (.finite .positive m e pos) = some ((m * 2 ^ e : ℝ) : EReal) ∨
      (packed? (.finite .positive m e pos) = some ⊤ ∧ 971 < e) := by
  rcases le_or_gt e 971 with high | large
  · left
    have storable : IsStorable (.finite .positive m e pos) := ⟨h, high⟩
    rw [packed?_storable storable, value?_finite_positive]
  · right
    rw [packed?, unpack_pack_of_lt _ _ large, value?_infinity_positive]
    exact ⟨rfl, large⟩

theorem packed?_carried {r : Nat} {g : Int} (bound : r ≤ 2 ^ 53) (low : -1074 ≤ g)
    (normal : 2 ^ 52 ≤ r ∨ g = -1074) :
    packed? (carried .positive r g) = some ((r * 2 ^ g : ℝ) : EReal) ∨
      (packed? (carried .positive r g) = some ⊤ ∧
        ∃ m e, IsCanonical m e ∧ 971 < e ∧ (m * 2 ^ e : ℝ) = r * 2 ^ g) := by
  rw [carried]
  split
  · rename_i none
    left
    rw [packed?_zero, none, Nat.cast_zero, zero_mul]
  split
  · rename_i full
    have power : IsCanonical (2 ^ 52) (g + 1) := ⟨by decide, by omega, .inl le_rfl⟩
    have same : ((2 ^ 52 : Nat) * 2 ^ (g + 1) : ℝ) = r * 2 ^ g := by
      rw [full, zpow_add₀ two_ne_zero]
      norm_num
      ring
    rw [← same]
    exact (packed?_canonical (by decide) power).imp_right
      fun ⟨top, large⟩ => ⟨top, _, _, power, large, rfl⟩
  · rename_i some notFull
    have canonical : IsCanonical r g := ⟨by omega, low, normal⟩
    exact (packed?_canonical (Nat.pos_of_ne_zero some) canonical).imp_right
      fun ⟨top, large⟩ => ⟨top, _, _, canonical, large, rfl⟩

theorem carried_faithful {m : Nat} {e : Int} (pos : 0 < m) (lower : e ≤ exponentFor m e) :
    ∃ v, packed? (carried .positive (roundedAt m (exponentFor m e - e).toNat) (exponentFor m e)) =
      some v ∧ IsFaithful figures (m * 2 ^ e) v := by
  set g := exponentFor m e with hg
  set r := roundedAt m (g - e).toNat with hr
  have quotient : IsCanonical (m / 2 ^ (g - e).toNat) g := isCanonical_div pos lower
  have bounds : m / 2 ^ (g - e).toNat ≤ r ∧ r ≤ m / 2 ^ (g - e).toNat + 1 := roundedAt_bounds _ _
  have normal : 2 ^ 52 ≤ r ∨ g = -1074 := quotient.normal.imp_left fun h => h.trans bounds.1
  have positive : (0 : ℝ) < m * 2 ^ e := by positivity
  rcases packed?_carried (bounds.2.trans quotient.bound) quotient.low normal with
    finite | ⟨top, p, q, canonical, large, big⟩
  · refine ⟨_, finite, isFaithful_of_storable positive ?_ fun p q other _ => ?_⟩
    · have : (0 : ℝ) ≤ r * 2 ^ g := by positivity
      exact_mod_cast this
    · obtain ⟨above, below⟩ := roundedAt_faithful pos lower other
      exact ⟨fun le => EReal.coe_le_coe_iff.mpr (above le),
        fun le => EReal.coe_le_coe_iff.mpr (below le)⟩
  · refine ⟨⊤, top, isFaithful_of_storable positive le_top fun p' q' other high => ?_⟩
    obtain ⟨above, -⟩ := roundedAt_faithful pos lower other
    have beyond : (p' * 2 ^ q' : ℝ) < r * 2 ^ g := by
      rw [← big]
      exact other.lt_of_exponent_lt canonical (by omega)
    exact ⟨fun le => absurd (above le) (not_le.mpr beyond), fun _ => le_top⟩

/-- A positive number is rounded faithfully. -/
theorem round_faithful {m : Nat} {e : Int} (pos : 0 < m) :
    ∃ v, packed? (UnpackedFloat.round Format.binary64 .positive m e) = some v ∧
      IsFaithful figures (m * 2 ^ e) v := by
  obtain ⟨n, f, posN, lower, same, rounded⟩ := round_eq .positive (e := e) pos
  rw [rounded, ← same]
  exact carried_faithful posN lower

end RecurringPayments.Binary64
