import RecurringPayments.Proofs.Number.Laws
import Mathlib

/-!
The real numbers as an arithmetic in which nothing is rounded. The same definitions that run in
floating point compute plain sums, means and deviations here.
-/
namespace RecurringPayments

noncomputable def nearestWhole (x : ℝ) : Nat :=
  if x - ⌊x⌋₊ < ⌊x⌋₊ + 1 - x then ⌊x⌋₊
  else if ⌊x⌋₊ + 1 - x < x - ⌊x⌋₊ then ⌊x⌋₊ + 1
  else ⌊x⌋₊ + ⌊x⌋₊ % 2

/-- There is no infinite and no undefined number; where one would arise zero stands for it. Nor has
a number a shortest text. -/
noncomputable instance : Scalar ℝ where
  ofInt n := n
  inRange _ := true
  ofDecimal negative digits exponent := (if negative then -1 else 1) * (digits * 10 ^ exponent)
  infinite _ := 0
  undefined := 0
  add x y := x + y
  sub x y := x - y
  mul x y := x * y
  div x y := x / y
  abs x := |x|
  sqrt x := √x
  isNegative x := decide (x < 0)
  order x y := some (cmp x y)
  orderInt x n := some (cmp x n)
  floor? x := some ⌊x⌋
  magnitudeAt places x := some (nearestWhole (|x| * 10 ^ places))
  text _ := ""

theorem Exact.half_eq : (Cadence.half : ℝ) = 1 / 2 := by
  change (1 * (((5 : ℕ) : ℝ) * 10 ^ (-1 : ℤ)) : ℝ) = _
  norm_num

theorem Exact.half_value :
    some ((Cadence.half : ℝ) : EReal) = some ((1 / 2 : ℝ) : EReal) := by
  rw [half_eq]

theorem Exact.exists_half (n : Nat) :
    ∃ x : ℝ, some (x : EReal) = some (((n : ℝ) / 2 : ℝ) : EReal) := ⟨n / 2, rfl⟩

noncomputable instance : LawfulScalar ℝ where
  value? x := some (x : EReal)
  order_eq x y := congrArg some (EReal.coe_strictMono.cmp_map_eq x y).symm
  orderInt_eq x n := congrArg some (EReal.coe_strictMono.cmp_map_eq x n).symm
  floor?_eq {x r} h := by
    rw [Option.some_inj, EReal.coe_eq_coe_iff] at h
    rw [h]
    rfl
  value?_zero := by
    change some (((0 : ℤ) : ℝ) : EReal) = _
    rw [Int.cast_zero]
  value?_one := by
    change some (((1 : ℤ) : ℝ) : EReal) = _
    rw [Int.cast_one]
  value?_half := Exact.half_value
  exists_half n _ := Exact.exists_half n
  nonneg {x a} h hx := by
    rw [Option.some_inj] at hx
    rw [← hx, EReal.coe_nonneg]
    exact not_lt.mp (of_decide_eq_false h)
  isNegative_ofInt n := by
    have nonneg : (0 : ℝ) ≤ ((n : ℤ) : ℝ) := by positivity
    exact decide_eq_false (not_lt.mpr nonneg)
  isNegative_add hx hy := decide_eq_false (not_lt.mpr
    (add_nonneg (not_lt.mp (of_decide_eq_false hx)) (not_lt.mp (of_decide_eq_false hy))))
  isNegative_div hx hy := decide_eq_false (not_lt.mpr
    (div_nonneg (not_lt.mp (of_decide_eq_false hx)) (not_lt.mp (of_decide_eq_false hy))))
  add_faithful {x y a b} hx hy _ _ := by
    rw [Option.some_inj, EReal.coe_eq_coe_iff] at hx hy
    rw [hx, hy]
    exact ⟨_, rfl, .self _ _⟩

/-- A reading of numbers as real numbers, for which nothing is rounded. -/
structure Scalar.IsExact {α : Type} [Scalar α] (value : α → ℝ) : Prop where
  ofInt (n : Int) : value (Scalar.ofInt n) = n
  add (x y : α) : value (Scalar.add x y) = value x + value y
  mul (x y : α) : value (Scalar.mul x y) = value x * value y

/-- A reading for which quotients are not rounded either, and whole numbers have no bound. -/
structure Scalar.IsUnrounded {α : Type} [Scalar α] (value : α → ℝ) : Prop
    extends Scalar.IsExact value where
  div (x y : α) : value (Scalar.div x y) = value x / value y
  abs (x : α) : value (Scalar.abs x) = |value x|
  inRange (n : Int) : Scalar.inRange (α := α) n = true

namespace Exact

/-! ### Sums -/

theorem isExact_id : Scalar.IsExact (id : ℝ → ℝ) where
  ofInt _ := rfl
  add _ _ := rfl
  mul _ _ := rfl

theorem isUnrounded_id : Scalar.IsUnrounded (id : ℝ → ℝ) where
  toIsExact := isExact_id
  div _ _ := rfl
  abs _ := rfl
  inRange _ := rfl

section

variable {α : Type} [Scalar α] {value : α → ℝ} (exact : Scalar.IsExact value)
include exact

theorem value_foldl_add (xs : List α) (x : α) :
    value (xs.foldl Scalar.add x) = value x + (xs.map value).sum := by
  induction xs generalizing x with
  | nil => simp
  | cons y ys ih => rw [List.foldl_cons, ih, exact.add, List.map_cons, List.sum_cons, add_assoc]

theorem value_plainSum (xs : List α) : value (plainSum xs) = (xs.map value).sum := by
  have zero : value Scalar.zero = 0 := (exact.ofInt 0).trans Int.cast_zero
  rw [plainSum, value_foldl_add exact, zero, zero_add]

end

theorem foldl_add_eq (xs : List ℝ) (x : ℝ) : xs.foldl Scalar.add x = x + xs.sum := by
  simpa using value_foldl_add isExact_id xs x

theorem plainSum_eq (xs : List ℝ) : plainSum xs = xs.sum := by
  simpa using value_plainSum isExact_id xs

theorem addRows_sum (xs ys : List ℝ) : (addRows xs ys).sum = xs.sum + ys.sum := by
  induction xs generalizing ys with
  | nil => simp [addRows]
  | cons x xs ih =>
    cases ys with
    | nil => simp [addRows]
    | cons y ys =>
      have add : Scalar.add x y = x + y := rfl
      rw [addRows, List.sum_cons, ih, add, List.sum_cons, List.sum_cons]
      ring

theorem columns_sum (totals rest : List ℝ) (rows : Nat) :
    (rowSum.columns totals rest rows).1.sum + (rowSum.columns totals rest rows).2.sum =
      totals.sum + rest.sum := by
  induction rows generalizing totals rest with
  | zero => rfl
  | succ rows ih =>
    rw [rowSum.columns, ih, addRows_sum, add_assoc, List.sum_take_add_sum_drop]

theorem rowSum_eq (xs : List ℝ) : rowSum xs = xs.sum := by
  have columns := columns_sum (xs.take 8) (xs.drop 8) (xs.length / 8 - 1)
  rw [List.sum_take_add_sum_drop] at columns
  rw [rowSum, ← columns]
  simp only [foldl_add_eq]
  congr 1
  split
  · rename_i a b c d e f g h totals
    rw [totals]
    change ((a + b) + (c + d)) + ((e + f) + (g + h)) = _
    simp only [List.sum_cons, List.sum_nil]
    ring
  · exact plainSum_eq _

theorem laneSum_eq (xs : List ℝ) : laneSum xs = xs.sum := by
  induction xs using laneSum.induct with
  | case1 xs short => rw [laneSum, if_pos short, plainSum_eq]
  | case2 xs long row => rw [laneSum, if_neg long, if_pos row, rowSum_eq]
  | case3 xs long big half inside left right =>
    have both : 0 < xs.length / 2 / 8 * 8 ∧ xs.length / 2 / 8 * 8 < xs.length := inside
    have halves := congrArg₂ (· + ·) left right
    rw [laneSum, if_neg long, if_neg big]
    simp only [if_pos both]
    exact halves.trans (List.sum_take_add_sum_drop xs half)
  | case4 xs long big half outside =>
    have notBoth : ¬ (0 < xs.length / 2 / 8 * 8 ∧ xs.length / 2 / 8 * 8 < xs.length) := outside
    rw [laneSum, if_neg long, if_neg big]
    simp only [if_neg notBoth, rowSum_eq]

theorem foldl_compensatedStep (xs : List ℝ) (total : ℝ) :
    xs.foldl compensatedStep (total, 0) = (total + xs.sum, 0) := by
  induction xs generalizing total with
  | nil => rw [List.foldl_nil, List.sum_nil, add_zero]
  | cons x xs ih =>
    have step : compensatedStep (total, 0) x = (total + x, 0) := by
      change (total + (x - 0), total + (x - 0) - total - (x - 0)) = _
      rw [sub_zero, add_sub_cancel_left, sub_self]
    rw [List.foldl_cons, step, ih, List.sum_cons, add_assoc]

section

variable {α : Type} [Scalar α] {value : α → ℝ}

theorem value_laneSum (exact : Scalar.IsExact value) (xs : List α) :
    value (laneSum xs) = (xs.map value).sum := by
  have zero : value Scalar.zero = (Scalar.zero : ℝ) := exact.ofInt 0
  have each : List.Forall₂ (fun x y => value x = y) xs (xs.map value) :=
    List.forall₂_map_right_iff.mpr (List.forall₂_same.mpr fun _ _ => rfl)
  rw [← laneSum_eq]
  refine laneSum_rel zero ?_ each
  rintro x y _ _ rfl rfl
  exact exact.add x y

theorem value_mean (unrounded : Scalar.IsUnrounded value) (xs : List α) :
    value (mean xs) = (xs.map value).sum / xs.length := by
  rw [mean, unrounded.div, value_laneSum unrounded.toIsExact, unrounded.ofInt, Int.cast_natCast]

end

theorem compensatedSum_eq (xs : List ℝ) : compensatedSum xs = xs.sum := by
  have zero : (Scalar.zero : ℝ) = 0 := Int.cast_zero
  rw [compensatedSum, zero, foldl_compensatedStep, zero_add]

theorem mean_eq (xs : List ℝ) : mean xs = xs.sum / xs.length := by
  simpa using value_mean isUnrounded_id xs

theorem deviation_eq (xs : List ℝ) :
    deviation xs = √((xs.map fun x => (x - mean xs) ^ 2).sum / xs.length) := by
  have squares : (xs.map fun x => Scalar.square (Scalar.sub x (mean xs))) =
      xs.map fun x => (x - mean xs) ^ 2 :=
    List.map_congr_left fun x _ => (sq (x - mean xs)).symm
  rw [deviation]
  simp only [squares]
  change √(mean _) = _
  rw [mean_eq, List.length_map]

/-! ### Bounds -/

theorem deviation_nonneg (xs : List ℝ) : 0 ≤ deviation xs := by
  rw [deviation_eq]
  exact Real.sqrt_nonneg _

section

variable {xs : List ℝ} (some : xs ≠ [])
include some

theorem length_pos : (0 : ℝ) < xs.length := by
  exact_mod_cast List.length_pos_iff.mpr some

theorem sum_eq_mean_mul : xs.sum = mean xs * xs.length := by
  rw [mean_eq, div_mul_cancel₀ _ (length_pos some).ne']

variable {low high : ℝ} (hl : ∀ x ∈ xs, low ≤ x) (hh : ∀ x ∈ xs, x ≤ high)
include hl hh

theorem mean_bounds : low ≤ mean xs ∧ mean xs ≤ high := by
  have pos := length_pos some
  have least := List.card_nsmul_le_sum xs low hl
  have most := List.sum_le_card_nsmul xs high hh
  rw [nsmul_eq_mul] at least most
  rw [mean_eq, le_div_iff₀ pos, div_le_iff₀ pos, mul_comm low, mul_comm high]
  exact ⟨least, most⟩

theorem deviation_le : deviation xs ≤ (high - low) / 2 := by
  have pos := length_pos some
  obtain ⟨least, most⟩ := mean_bounds some hl hh
  have total := sum_eq_mean_mul some
  set m := mean xs with hm
  -- Each square lies below a line through the squares at both bounds.
  have line : (xs.map fun x => (x - m) ^ 2).sum ≤
      (xs.map fun x => (low + high - 2 * m) * x + (m ^ 2 - low * high)).sum := by
    refine List.sum_le_sum fun x hx => ?_
    have inside : 0 ≤ (x - low) * (high - x) :=
      mul_nonneg (sub_nonneg.mpr (hl x hx)) (sub_nonneg.mpr (hh x hx))
    nlinarith only [inside]
  have onLine : (xs.map fun x => (low + high - 2 * m) * x + (m ^ 2 - low * high)).sum =
      (m - low) * (high - m) * xs.length := by
    rw [List.sum_map_add, List.sum_map_mul_left, List.map_id', List.map_const', List.sum_replicate,
      total, nsmul_eq_mul]
    ring
  rw [deviation_eq, ← hm]
  apply Real.sqrt_le_iff.mpr
  constructor
  · linarith
  · rw [div_le_iff₀ pos]
    calc (xs.map fun x => (x - m) ^ 2).sum ≤ (m - low) * (high - m) * xs.length := onLine ▸ line
      _ ≤ ((high - low) / 2) ^ 2 * xs.length := by
        gcongr
        nlinarith only [sq_nonneg (low + high - 2 * m)]

end

/-! ### Confidence -/

theorem lt_iff (x y : ℝ) : Scalar.lt x y = true ↔ x < y := by
  rw [Scalar.lt_iff rfl rfl, EReal.coe_lt_coe_iff]

theorem same_iff (x y : ℝ) : Scalar.same x y = true ↔ x = y := by
  change (some (cmp x y) == some .eq) = true ↔ _
  rw [beq_iff_eq, Option.some_inj, cmp_eq_eq_iff]

theorem atLeast_eq (x y : ℝ) : Scalar.atLeast x y = max x y := by
  rw [Scalar.atLeast]
  split
  · rename_i above
    exact (max_eq_right ((lt_iff x y).mp above).le).symm
  · rename_i notAbove
    rw [lt_iff, not_lt] at notAbove
    exact (max_eq_left notAbove).symm

theorem atMost_eq (x y : ℝ) : Scalar.atMost x y = min x y := by
  rw [Scalar.atMost]
  split
  · rename_i below
    exact (min_eq_right ((lt_iff y x).mp below).le).symm
  · rename_i notBelow
    rw [lt_iff, not_lt] at notBelow
    exact (min_eq_left notBelow).symm

theorem confidence_eq {m d : ℝ} (hm : 0 < m) (hd : 0 ≤ d) :
    Cadence.confidence m d = max 0 (1 - d / m) := by
  have zero : (Scalar.zero : ℝ) = 0 := Int.cast_zero
  have one : (Scalar.one : ℝ) = 1 := Int.cast_one
  have positive : ¬ Scalar.le m (Scalar.zero : ℝ) = true := by
    rw [Scalar.le_iff rfl rfl, EReal.coe_le_coe_iff, zero, not_le]
    exact hm
  have relative : 0 ≤ d / m := div_nonneg hd hm.le
  rw [Cadence.confidence, if_neg positive, atLeast_eq, atMost_eq, zero, one]
  exact min_eq_left (max_le zero_le_one (by simpa [Scalar.sub, Scalar.div] using relative))

theorem lt_confidence_iff {m d c : ℝ} (hm : 0 < m) (hd : 0 ≤ d) (hc : 0 ≤ c) :
    c < Cadence.confidence m d ↔ d < (1 - c) * m := by
  rw [confidence_eq hm hd, lt_max_iff, or_iff_right (not_lt.mpr hc), lt_sub_comm, div_lt_iff₀ hm]

theorem of_confidence_pos {m d : ℝ} (hd : 0 ≤ d) (sure : 0 < Cadence.confidence m d) :
    0 < m ∧ d < m := by
  have hm : 0 < m := by
    by_contra notPos
    have zero : (Scalar.zero : ℝ) = 0 := Int.cast_zero
    have below : Scalar.le m (Scalar.zero : ℝ) = true := by
      rw [Scalar.le_iff rfl rfl, EReal.coe_le_coe_iff, zero]
      exact not_lt.mp notPos
    rw [Cadence.confidence, if_pos below, zero] at sure
    exact sure.false
  rw [lt_confidence_iff hm hd le_rfl, sub_zero, one_mul] at sure
  exact ⟨hm, sure⟩

end Exact

end RecurringPayments
