import RecurringPayments.Proofs.Number.Exact
import RecurringPayments.Proofs.Number.Floating

/-!
Whole numbers in binary floating point. Up to `2 ^ 52` they are figures, and so are their sums, in
whatever order they are added; a mean of whole numbers knows no more of them than their sum and
their number.
-/
namespace RecurringPayments

namespace Binary64

open Float.Model Float.Model.UnpackedFloat

/-! ### Whole numbers as figures -/

theorem natCast_mem_figures {n : Nat} (small : n ≤ 2 ^ 52) : ((n : ℝ) : EReal) ∈ figures := by
  obtain ⟨x, hx⟩ := exists_half (2 * n) (by omega)
  refine ⟨x, hx.trans ?_⟩
  rw [Nat.cast_mul, Nat.cast_ofNat, mul_div_cancel_left₀ _ two_ne_zero]

theorem value?_toFloat {n : Nat} (small : n ≤ 2 ^ 52) :
    (ofFloat n.toUInt64.toFloat).value? = some ((n : ℝ) : EReal) := by
  have held : n.toUInt64.toNat = n := by
    rw [Nat.toUInt64, UInt64.toNat_ofNat']
    exact Nat.mod_eq_of_lt (by omega)
  change (ofFloat (.ofModel (Float.Model.pack
    (UnpackedFloat.normalize Format.binary64 n.toUInt64.toNat 0 .positive)))).value? = _
  rw [held, value?_ofModel]
  change packed? (UnpackedFloat.normalize Format.binary64 n 0 .positive) = _
  unfold UnpackedFloat.normalize
  rcases Nat.eq_zero_or_pos n with rfl | pos
  · have zero : ((0 : Nat) : ℝ) = 0 := Nat.cast_zero
    rw [zero]
    exact packed?_zero .positive
  · rw [compare_gt_iff_gt.mpr (Int.natCast_pos.mpr pos)]
    obtain ⟨v, hv, faithful⟩ := round_faithful (m := n) (e := 0) pos
    rw [zpow_zero, mul_one] at faithful
    rw [Int.toNat_natCast, hv, faithful.eq_of_mem (natCast_mem_figures small)]

theorem unpack_one : (Float.exactlyRepresentablePowersOfTen[0]).toModel.unpack =
    .finite .positive (2 ^ 52) (-52) (by decide) := rfl

theorem value?_mul_one {x : Float} {a : ℝ} (hx : (ofFloat x).value? = some (a : EReal))
    (ha : 0 ≤ a) :
    (ofFloat (x * Float.exactlyRepresentablePowersOfTen[0])).value? = some (a : EReal) := by
  have listed : (a : EReal) ∈ figures := ⟨x, hx⟩
  change (ofFloat (.ofModel (Float.Model.pack (UnpackedFloat.mul Format.binary64 x.toModel.unpack
    (Float.exactlyRepresentablePowersOfTen[0]).toModel.unpack)))).value? = _
  rw [value?_ofModel, unpack_one]
  change packed? (UnpackedFloat.mul Format.binary64 x.toModel.unpack _) = _
  rw [ofFloat_eq_ofUnpacked] at hx
  rcases zero_or_positive hx ha with ⟨s, hu, rfl⟩ | ⟨m, e, hm, hu, rfl⟩
  · rw [hu]
    exact packed?_zero _
  · have pos : 0 < m * 2 ^ 52 := by positivity
    have lower : e + -52 ≤ exponentFor (m * 2 ^ 52) (e + -52) := by
      have bits := log2_shiftLeft m 52 hm
      rw [Nat.shiftLeft_eq] at bits
      rw [exponentFor, bits]
      omega
    obtain ⟨v, hv, faithful⟩ := carried_faithful pos lower
    have same : ((m * 2 ^ 52 : Nat) * 2 ^ (e + -52) : ℝ) = m * 2 ^ e := by
      rw [zpow_add₀ two_ne_zero]
      push_cast
      norm_num
      ring
    rw [same] at faithful
    rw [hu]
    change packed? (roundWithAccuracy Format.binary64 .positive (m * 2 ^ 52) (e + -52) .exact) = _
    rw [roundWithAccuracy_eq .positive pos lower, hv, faithful.eq_of_mem listed]

theorem value?_ofInt {n : Nat} (small : n ≤ 2 ^ 52) :
    LawfulScalar.value? (Scalar.ofInt n : Float) = some ((n : ℝ) : EReal) := by
  change (ofFloat (floatOfInt n)).value? = _
  have sign : decide ((n : Int) < 0) = false := by simp
  have digits : (Decimal.digitsOf n).length ≤ 16 :=
    (Nat.length_toDigits_le_iff (by decide) (by decide)).mpr (by omega)
  rw [floatOfInt, floatOfDecimal, sign]
  simp only [Bool.false_eq_true, if_false, Int.natAbs_natCast]
  split_ifs with none large
  · have zero : n = 0 := by
      simp at none
      omega
    rw [zero, Nat.cast_zero]
    exact zero_value
  · omega
  · have least : n < 2 ^ 53 ∧ 0 ≤ 22 := by omega
    change (ofFloat (Float.ofScientific n false 0)).value? = _
    rw [Float.ofScientific, dif_pos least]
    exact value?_mul_one (value?_toFloat small) (Nat.cast_nonneg n)

/-! ### Figures of one number -/

theorem unpack_eq {x y : Float} {a : ℝ} (hx : (ofFloat x).value? = some (a : EReal))
    (hy : (ofFloat y).value? = some (a : EReal)) (unsigned : Scalar.isNegative x = false)
    (unsigned' : Scalar.isNegative y = false) : x.toModel.unpack = y.toModel.unpack := by
  have ha : 0 ≤ a := EReal.coe_nonneg.mp (nonneg unsigned hx)
  have sign := isUnsigned_unpack unsigned
  have sign' := isUnsigned_unpack unsigned'
  have storable : IsStorable x.toModel.unpack := isStorable_unpack _
  have storable' : IsStorable y.toModel.unpack := isStorable_unpack _
  rw [ofFloat_eq_ofUnpacked] at hx hy
  rcases zero_or_positive hx ha with ⟨s, hu, rfl⟩ | ⟨m, e, hm, hu, rfl⟩
  · rcases zero_or_positive hy ha with ⟨t, hv, -⟩ | ⟨n, f, hn, hv, none⟩
    · rw [hu] at sign
      rw [hv] at sign'
      rw [hu, hv, show s = .positive from sign, show t = .positive from sign']
    · have positive : (0 : ℝ) < n * 2 ^ f := by positivity
      exact absurd none positive.ne
  · rcases zero_or_positive hy ha with ⟨t, hv, none⟩ | ⟨n, f, hn, hv, same⟩
    · have positive : (0 : ℝ) < m * 2 ^ e := by positivity
      exact absurd none positive.ne'
    · rw [hu] at storable
      rw [hv] at storable'
      have order := cmp_magnitude storable.1 storable'.1
      rw [same, cmp_self_eq_eq, Ordering.then_eq_eq, compare_eq_iff_eq, compare_eq_iff_eq] at order
      obtain ⟨rfl, rfl⟩ := order
      rw [hu, hv]

theorem div_congr {x y : Float} {a : ℝ} (hx : (ofFloat x).value? = some (a : EReal))
    (hy : (ofFloat y).value? = some (a : EReal)) (unsigned : Scalar.isNegative x = false)
    (unsigned' : Scalar.isNegative y = false) (z : Float) : Scalar.div x z = Scalar.div y z := by
  change Float.ofModel (Float.Model.pack (UnpackedFloat.div Format.binary64 x.toModel.unpack _)) =
    Float.ofModel (Float.Model.pack (UnpackedFloat.div Format.binary64 y.toModel.unpack _))
  rw [unpack_eq hx hy unsigned unsigned']

end Binary64

/-! ### Sums of whole numbers -/

open LawfulScalar

/-- A figure stands for a whole number, unless that is too large to be held. -/
def HoldsWhole (x : Float) (y : ℝ) : Prop :=
  Scalar.isNegative x = false ∧
    ∃ n : ℕ, y = n ∧ (n ≤ 2 ^ 52 → value? x = some ((n : ℝ) : EReal))

namespace HoldsWhole

theorem ofInt (n : ℕ) : HoldsWhole (Scalar.ofInt n) n :=
  ⟨isNegative_ofInt n, n, rfl, Binary64.value?_ofInt⟩

theorem add {x y : Float} {a b : ℝ} (hx : HoldsWhole x a) (hy : HoldsWhole y b) :
    HoldsWhole (Scalar.add x y) (Scalar.add a b) := by
  obtain ⟨unsigned, m, rfl, held⟩ := hx
  obtain ⟨unsigned', n, rfl, held'⟩ := hy
  have sum : Scalar.add (m : ℝ) n = ((m + n : ℕ) : ℝ) := (Nat.cast_add m n).symm
  refine ⟨isNegative_add unsigned unsigned', m + n, sum, fun small => ?_⟩
  obtain ⟨v, hv, faithful⟩ := add_faithful (held (by omega)) (held' (by omega)) (Nat.cast_nonneg m)
    (Nat.cast_nonneg n)
  have listed := Binary64.natCast_mem_figures small
  rw [Nat.cast_add] at listed ⊢
  rw [hv, faithful.eq_of_mem listed]

theorem laneSum_ofInt (ns : List ℕ) :
    HoldsWhole (laneSum (ns.map fun n : ℕ => Scalar.ofInt n)) (ns.sum : ℕ) := by
  have entries : List.Forall₂ HoldsWhole (ns.map fun n : ℕ => Scalar.ofInt n)
      (ns.map fun n : ℕ => (n : ℝ)) := by
    rw [List.forall₂_map_left_iff, List.forall₂_map_right_iff, List.forall₂_same]
    exact fun n _ => ofInt n
  have zero : HoldsWhole Scalar.zero Scalar.zero := by
    have held := ofInt 0
    rwa [Nat.cast_zero] at held
  have sum := laneSum_rel zero add entries
  rwa [Exact.laneSum_eq, ← Nat.cast_list_sum] at sum

end HoldsWhole

theorem mean_eq_of_sum_eq {ns ns' : List ℕ} (length : ns.length = ns'.length)
    (sum : ns.sum = ns'.sum) (small : ns.sum ≤ 2 ^ 52) :
    (mean (ns.map fun n : ℕ => Scalar.ofInt n) : Float) =
      mean (ns'.map fun n : ℕ => Scalar.ofInt n) := by
  obtain ⟨unsigned, n, hn, held⟩ := HoldsWhole.laneSum_ofInt ns
  obtain ⟨unsigned', n', hn', held'⟩ := HoldsWhole.laneSum_ofInt ns'
  obtain rfl : ns.sum = n := Nat.cast_injective hn
  obtain rfl : ns'.sum = n' := Nat.cast_injective hn'
  have value := held small
  have value' := held' (sum ▸ small)
  rw [← sum] at value'
  rw [mean, mean, List.length_map, List.length_map, ← length]
  exact Binary64.div_congr value value' unsigned unsigned' _

end RecurringPayments
