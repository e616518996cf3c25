import RecurringPayments.Proofs.Detection.Report
import RecurringPayments.Proofs.Number.Exact
import RecurringPayments.Proofs.Value.Unrounded

/-!
Which payments match a group. How far an amount is from the average of the group is measured
against the middle between the two, not against the average. In exact arithmetic the amounts that
match still fill a window around the average, but both ends of it lie higher than those of the
amounts within the tolerance of the average: some of these are refused, and some larger ones
match.
-/
namespace RecurringPayments

open Result

theorem Value.scalar_magnitude {v : Value ℝ} {x : ℝ} (number : v.scalar = .ok x) :
    (v.magnitude >>= scalar) = .ok |x| := by
  obtain ⟨u, made, _, size, rfl⟩ := exists_magnitude Exact.isUnrounded_id ⟨x, number, rfl⟩
  rw [made]
  exact size

namespace Detector

theorem matchesGroup_eq (d : Detector ℝ) {t : Transaction ℝ} (g : RecurringGroup ℝ) {x : ℝ}
    (number : t.amount.scalar = .ok x) : d.matchesGroup t g =
      if t.key != g.merchantKey then .ok false else d.similarAmounts |x| g.averageAmount := by
  rw [matchesGroup, Transaction.key]
  split
  · rfl
  · rw [← bind_assoc, Value.scalar_magnitude number]
    rfl

/-! ### Windows of amounts -/

/-- The size differs from the average by at most the tolerance, as a part of the average. -/
def IsWithin (tolerance average size : ℝ) : Prop := |size - average| ≤ tolerance * average

/-- The size differs from the average by at most the tolerance, as a part of the middle between the
two. -/
def IsSimilar (tolerance average size : ℝ) : Prop :=
  |size - average| ≤ tolerance * ((size + average) / (2 : ℕ))

noncomputable def leastSimilar (tolerance average : ℝ) : ℝ :=
  ((2 : ℕ) - tolerance) / ((2 : ℕ) + tolerance) * average

noncomputable def greatestSimilar (tolerance average : ℝ) : ℝ :=
  ((2 : ℕ) + tolerance) / ((2 : ℕ) - tolerance) * average

theorem isWithin_iff (tolerance average size : ℝ) : IsWithin tolerance average size ↔
    (1 - tolerance) * average ≤ size ∧ size ≤ (1 + tolerance) * average := by
  rw [IsWithin, abs_le]
  constructor <;> rintro ⟨low, high⟩ <;> constructor <;> linarith

section

variable {tolerance : ℝ} (nonneg : 0 ≤ tolerance) (below : tolerance < 2)

include nonneg in
theorem leastSimilar_eq (average : ℝ) : leastSimilar tolerance average =
    (1 - tolerance) * average + tolerance ^ 2 / (2 + tolerance) * average := by
  have sum : 2 + tolerance ≠ 0 := by positivity
  rw [leastSimilar, Nat.cast_ofNat]
  field_simp
  ring

include below in
theorem greatestSimilar_eq (average : ℝ) : greatestSimilar tolerance average =
    (1 + tolerance) * average + tolerance ^ 2 / (2 - tolerance) * average := by
  have difference : 2 - tolerance ≠ 0 := (sub_pos.mpr below).ne'
  rw [greatestSimilar, Nat.cast_ofNat]
  field_simp
  ring

include nonneg below

theorem isSimilar_iff (average size : ℝ) : IsSimilar tolerance average size ↔
    leastSimilar tolerance average ≤ size ∧ size ≤ greatestSimilar tolerance average := by
  have sum : 0 < 2 + tolerance := by positivity
  have difference : 0 < 2 - tolerance := sub_pos.mpr below
  rw [IsSimilar, abs_le, leastSimilar, greatestSimilar, Nat.cast_ofNat, div_mul_eq_mul_div,
    div_mul_eq_mul_div, div_le_iff₀ sum, le_div_iff₀ difference]
  constructor <;> rintro ⟨low, high⟩ <;> constructor <;> linarith

variable {average : ℝ} (positive : 0 < average)
include positive

theorem windows_ordered : (1 - tolerance) * average ≤ leastSimilar tolerance average ∧
    leastSimilar tolerance average ≤ (1 + tolerance) * average ∧
      (1 + tolerance) * average ≤ greatestSimilar tolerance average := by
  have sum : 0 < 2 + tolerance := by positivity
  have difference : 0 < 2 - tolerance := sub_pos.mpr below
  have part : 0 ≤ tolerance * average := mul_nonneg nonneg positive.le
  have shrunk : leastSimilar tolerance average ≤ average := by
    rw [leastSimilar, Nat.cast_ofNat, div_mul_eq_mul_div, div_le_iff₀ sum]
    linarith
  refine ⟨?_, by linarith, ?_⟩
  · rw [leastSimilar_eq nonneg]
    exact le_add_of_nonneg_right (by positivity)
  · rw [greatestSimilar_eq below]
    exact le_add_of_nonneg_right (by positivity)

theorem isSimilar_iff_isWithin_iff (size : ℝ) :
    (IsSimilar tolerance average size ↔ IsWithin tolerance average size) ↔
      size ∉ Set.Ico ((1 - tolerance) * average) (leastSimilar tolerance average) ∧
        size ∉ Set.Ioc ((1 + tolerance) * average) (greatestSimilar tolerance average) := by
  obtain ⟨low, overlap, high⟩ := windows_ordered nonneg below positive
  rw [isSimilar_iff nonneg below, isWithin_iff, Set.mem_Ico, Set.mem_Ioc]
  constructor
  · intro agree
    constructor
    · rintro ⟨within, small⟩
      exact absurd (agree.mpr ⟨within, small.le.trans overlap⟩).1 (not_le.mpr small)
    · rintro ⟨large, similar⟩
      exact absurd (agree.mp ⟨overlap.trans large.le, similar⟩).2 (not_le.mpr large)
  · rintro ⟨notSmall, notLarge⟩
    constructor
    · rintro ⟨least, greatest⟩
      exact ⟨low.trans least, not_lt.mp fun large => notLarge ⟨large, greatest⟩⟩
    · rintro ⟨least, greatest⟩
      exact ⟨not_lt.mp fun small => notSmall ⟨least, small⟩, greatest.trans high⟩

end

/-! ### Matching -/

section

variable {d : Detector ℝ} {tolerance : ℝ}
  (number : d.amountTolerance.number? = some (tolerance : EReal))
include number

theorem exists_similarAmounts {size average : ℝ} (nonneg : 0 ≤ size) (positive : 0 < average) :
    ∃ b, d.similarAmounts size average = .ok b ∧ (b = true ↔ IsSimilar tolerance average size) := by
  have middle : 0 < (size + average) / 2 := by positivity
  have scale : Scalar.div (Scalar.add (Scalar.abs size) (Scalar.abs average)) (Scalar.ofInt 2) =
      (size + average) / 2 := by
    change (|size| + |average|) / ((2 : ℤ) : ℝ) = (size + average) / 2
    rw [abs_of_nonneg nonneg, abs_of_pos positive, Int.cast_ofNat]
  have nonzero : ¬ Scalar.same ((size + average) / 2) (Scalar.zero : ℝ) = true := by
    rw [Exact.same_iff]
    exact middle.ne'.trans_eq Int.cast_zero.symm
  have distance : (Value.real (Scalar.div (Scalar.abs (Scalar.sub size average))
      ((size + average) / 2))).number? =
        some ((|size - average| / ((size + average) / 2) : ℝ) : EReal) := rfl
  refine ⟨decide (|size - average| / ((size + average) / 2) ≤ tolerance), ?_, ?_⟩
  · rw [similarAmounts]
    simp only [scale]
    rw [if_neg nonzero, Value.isAtMost_number distance number]
    simp only [EReal.coe_le_coe_iff]
  · rw [decide_eq_true_iff, div_le_iff₀ middle, IsSimilar, Nat.cast_ofNat]

/-- In exact arithmetic, for a positive average and a tolerance below two, it is decided whether a
payment matches a group: it does exactly if it is one of the group's merchant and the size of its
amount lies between the two ends. For payments of the merchant this comes to being within the
tolerance of the average, but for sizes between the lower ends of the two windows or between the
upper ends. -/
theorem matchesGroup_fillsWindow (nonneg : 0 ≤ tolerance) (below : tolerance < 2)
    {g : RecurringGroup ℝ} (positive : 0 < g.averageAmount) {t : Transaction ℝ} {x : ℝ}
    (amount : t.amount.scalar = .ok x) :
    ∃ b, d.matchesGroup t g = .ok b ∧
      (b = true ↔ t.key = g.merchantKey ∧ leastSimilar tolerance g.averageAmount ≤ |x| ∧
        |x| ≤ greatestSimilar tolerance g.averageAmount) ∧
      (t.key = g.merchantKey →
        ((b = true ↔ IsWithin tolerance g.averageAmount |x|) ↔
          |x| ∉ Set.Ico ((1 - tolerance) * g.averageAmount)
            (leastSimilar tolerance g.averageAmount) ∧
          |x| ∉ Set.Ioc ((1 + tolerance) * g.averageAmount)
            (greatestSimilar tolerance g.averageAmount))) := by
  rw [matchesGroup_eq d g amount]
  by_cases own : t.key = g.merchantKey
  · obtain ⟨b, similar, holds⟩ := exists_similarAmounts number (abs_nonneg x) positive
    refine ⟨b, ?_, ?_, fun _ => ?_⟩
    · rw [own, bne_self_eq_false, if_neg Bool.false_ne_true, similar]
    · rw [holds, isSimilar_iff nonneg below, and_iff_right own]
    · rw [holds, isSimilar_iff_isWithin_iff nonneg below positive]
  · refine ⟨false, if_pos (by simpa using own), ?_, fun same => absurd same own⟩
    exact iff_of_false Bool.false_ne_true fun matched => own matched.1

end

noncomputable def gymGroup : RecurringGroup ℝ where
  merchantKey := "gym"
  category := .text "Health"
  pattern := { frequency := "monthly", interval := 1, nextDate := .never, confidence := 1 }
  members := []
  averageAmount := 1000
  variance := 0
  isSubscription := true

theorem standard_amountTolerance :
    (standard : Detector ℝ).amountTolerance.number? = some ((1 / 10 : ℝ) : EReal) := by
  change some ((1 * (((10 : ℕ) : ℝ) * 10 ^ (-2 : ℤ)) : ℝ) : EReal) = _
  norm_num

theorem gymGroup_positive : 0 < gymGroup.averageAmount := by
  change (0 : ℝ) < 1000
  norm_num

def visitFor (amount : Int) : Transaction ℝ := payment "Gym" ⟨739000, by decide⟩ amount

theorem key_visitFor (amount : Int) : (visitFor amount).key = gymGroup.merchantKey := by
  change MerchantKey.ofValue (.text "Gym" : Value ℝ) = "gym"
  decide +kernel

theorem scalar_visitFor (amount : Int) : (visitFor amount).amount.scalar = .ok (amount : ℝ) := rfl

theorem matchesGroup_fillsWindow_gymGroup :
    standard.matchesGroup (visitFor 1102) gymGroup = .ok true ∧
      ¬ IsWithin (1 / 10) gymGroup.averageAmount |((1102 : ℤ) : ℝ)| := by
  obtain ⟨b, matched, window, -⟩ := matchesGroup_fillsWindow standard_amountTolerance
    (by norm_num) (by norm_num) gymGroup_positive (scalar_visitFor 1102)
  have similar : b = true := by
    refine window.mpr ⟨key_visitFor 1102, ?_, ?_⟩
    · change (2 - 1 / 10) / (2 + 1 / 10) * 1000 ≤ |((1102 : ℤ) : ℝ)|
      norm_num
    · change |((1102 : ℤ) : ℝ)| ≤ (2 + 1 / 10) / (2 - 1 / 10) * 1000
      norm_num
  refine ⟨similar ▸ matched, ?_⟩
  change ¬ |(|((1102 : ℤ) : ℝ)| - 1000 : ℝ)| ≤ 1 / 10 * 1000
  norm_num

/-- A visit for 902 is within a tenth of the average, and does not match. -/
theorem matchesGroup_refuses_within :
    (standard : Detector ℝ).amountTolerance.number? = some ((1 / 10 : ℝ) : EReal) ∧
      (visitFor 902).key = gymGroup.merchantKey ∧
      IsWithin (1 / 10) gymGroup.averageAmount |((902 : ℤ) : ℝ)| ∧
      standard.matchesGroup (visitFor 902) gymGroup = .ok false := by
  obtain ⟨b, decided, holds⟩ := exists_similarAmounts standard_amountTolerance
    (abs_nonneg ((902 : ℤ) : ℝ)) gymGroup_positive
  have small : ¬ IsSimilar (1 / 10) gymGroup.averageAmount |((902 : ℤ) : ℝ)| := by
    change ¬ |(|((902 : ℤ) : ℝ)| - 1000 : ℝ)| ≤ 1 / 10 * ((|((902 : ℤ) : ℝ)| + 1000) / 2)
    norm_num
  rw [← holds, Bool.not_eq_true] at small
  refine ⟨standard_amountTolerance, key_visitFor 902, ?_, ?_⟩
  · change |(|((902 : ℤ) : ℝ)| - 1000 : ℝ)| ≤ 1 / 10 * 1000
    norm_num
  · rw [matchesGroup_eq _ _ (scalar_visitFor 902), key_visitFor, bne_self_eq_false,
      if_neg Bool.false_ne_true, decided, small]

end Detector

end RecurringPayments
