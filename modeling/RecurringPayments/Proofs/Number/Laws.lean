import RecurringPayments.Detection.Cadence
import Mathlib

/-!
Laws of the arithmetic, as far as detection relies on them. They hold of binary floating point
and of the real numbers alike: every figure stands for a number or is undefined, comparison is
comparison of these numbers, nothing negative comes out of sums and quotients of what is not, and
a sum is rounded without crossing a figure.
-/
namespace RecurringPayments

/-- No number of the grid lies strictly between the exact number and the result. -/
def IsFaithful (grid : Set EReal) (exact : ℝ) (result : EReal) : Prop :=
  ∀ c ∈ grid, ((exact : EReal) ≤ c → result ≤ c) ∧ (c ≤ exact → c ≤ result)

theorem IsFaithful.self (grid : Set EReal) (exact : ℝ) : IsFaithful grid exact exact :=
  fun _ _ => ⟨id, id⟩

theorem IsFaithful.eq_of_mem {grid : Set EReal} {exact : ℝ} {result : EReal}
    (h : IsFaithful grid exact result) (listed : (exact : EReal) ∈ grid) : result = exact :=
  le_antisymm ((h _ listed).1 le_rfl) ((h _ listed).2 le_rfl)

class LawfulScalar (α : Type) [Scalar α] where
  /-- The number that a figure stands for, `none` for the undefined one. -/
  value? : α → Option EReal
  order_eq (x y : α) : Scalar.order x y = (value? x).bind fun a => (value? y).map fun b => cmp a b
  orderInt_eq (x : α) (n : Int) :
    Scalar.orderInt x n = (value? x).map fun a => cmp a ((n : ℝ) : EReal)
  floor?_eq {x : α} {r : ℝ} (h : value? x = some (r : EReal)) : Scalar.floor? x = some ⌊r⌋
  value?_zero : value? Scalar.zero = some ((0 : ℝ) : EReal)
  value?_one : value? Scalar.one = some ((1 : ℝ) : EReal)
  value?_half : value? Cadence.half = some ((1 / 2 : ℝ) : EReal)
  exists_half (n : Nat) (h : n ≤ 2 ^ 53) : ∃ x, value? x = some ((n / 2 : ℝ) : EReal)
  nonneg {x : α} {a : EReal} (h : Scalar.isNegative x = false) (hx : value? x = some a) : 0 ≤ a
  isNegative_ofInt (n : Nat) : Scalar.isNegative (Scalar.ofInt n : α) = false
  isNegative_add {x y : α} (hx : Scalar.isNegative x = false) (hy : Scalar.isNegative y = false) :
    Scalar.isNegative (Scalar.add x y) = false
  isNegative_div {x y : α} (hx : Scalar.isNegative x = false) (hy : Scalar.isNegative y = false) :
    Scalar.isNegative (Scalar.div x y) = false
  add_faithful {x y : α} {a b : ℝ} (hx : value? x = some (a : EReal))
    (hy : value? y = some (b : EReal)) (ha : 0 ≤ a) (hb : 0 ≤ b) :
    ∃ v, value? (Scalar.add x y) = some v ∧ IsFaithful {c | ∃ z, value? z = some c} (a + b) v

namespace Scalar

open LawfulScalar

variable {α : Type} [Scalar α] [LawfulScalar α]

/-! ### Comparison -/

section

variable {x y : α} {a b : EReal} (hx : value? x = some a) (hy : value? y = some b)
include hx hy

theorem order_value : order x y = some (cmp a b) := by
  rw [order_eq, hx, hy]
  rfl

theorem lt_iff : lt x y = true ↔ a < b := by
  rw [lt, order_value hx hy]
  simp [cmp_eq_lt_iff]

theorem le_iff : le x y = true ↔ a ≤ b := by
  rw [le, order_value hx hy]
  rcases lt_trichotomy a b with h | h | h
  · simp [(cmp_eq_lt_iff a b).mpr h, h.le]
  · simp [h]
  · simp [(cmp_eq_gt_iff a b).mpr h, h]

end

theorem value?_clamped (x : α) :
    ∃ a, value? (atMost (atLeast zero x) one) = some a ∧ 0 ≤ a ∧ a ≤ 1 := by
  have low : ∃ a, value? (atLeast zero x) = some a ∧ 0 ≤ a := by
    rw [atLeast]
    split
    · rename_i above
      cases hx : value? x with
      | none => simp [lt, order_eq, hx] at above
      | some a => exact ⟨a, rfl, ((lt_iff value?_zero hx).mp above).le⟩
    · exact ⟨_, value?_zero, le_rfl⟩
  obtain ⟨a, ha, nonneg⟩ := low
  rw [atMost]
  split
  · exact ⟨_, value?_one, by norm_num, le_rfl⟩
  · rename_i notBelow
    rw [lt_iff value?_one ha, not_lt] at notBelow
    exact ⟨a, ha, nonneg, notBelow⟩

end Scalar

/-! ### Sums -/

section

variable {α β : Type} [Scalar α] [Scalar β] {R : α → β → Prop} (zero : R Scalar.zero Scalar.zero)
  (add : ∀ {x y x' y'}, R x x' → R y y' → R (Scalar.add x y) (Scalar.add x' y'))
include add

theorem foldl_add_rel {xs : List α} {ys : List β} (h : List.Forall₂ R xs ys) {x : α} {y : β}
    (hxy : R x y) : R (xs.foldl Scalar.add x) (ys.foldl Scalar.add y) := by
  induction h generalizing x y with
  | nil => exact hxy
  | cons first _ ih => exact ih (add hxy first)

theorem addRows_rel {xs xs' : List α} {ys ys' : List β} (h : List.Forall₂ R xs ys)
    (h' : List.Forall₂ R xs' ys') : List.Forall₂ R (addRows xs xs') (addRows ys ys') := by
  induction h generalizing xs' ys' with
  | nil => exact h'
  | cons first rest ih =>
    cases h' with
    | nil => exact .cons first rest
    | cons first' rest' => exact .cons (add first first') (ih rest')

theorem columns_rel {totals rest : List α} {totals' rest' : List β} (rows : Nat)
    (ht : List.Forall₂ R totals totals') (hr : List.Forall₂ R rest rest') :
    List.Forall₂ R (rowSum.columns totals rest rows).1 (rowSum.columns totals' rest' rows).1 ∧
      List.Forall₂ R (rowSum.columns totals rest rows).2 (rowSum.columns totals' rest' rows).2 := by
  induction rows generalizing totals rest totals' rest' with
  | zero => exact ⟨ht, hr⟩
  | succ rows ih =>
    rw [rowSum.columns, rowSum.columns]
    exact ih (addRows_rel add ht (List.forall₂_take 8 hr)) (List.forall₂_drop 8 hr)

include zero

theorem plainSum_rel {xs : List α} {ys : List β} (h : List.Forall₂ R xs ys) :
    R (plainSum xs) (plainSum ys) :=
  foldl_add_rel add h zero

theorem rowSum_rel {xs : List α} {ys : List β} (h : List.Forall₂ R xs ys) :
    R (rowSum xs) (rowSum ys) := by
  obtain ⟨totals, rest⟩ := columns_rel add (xs.length / 8 - 1) (List.forall₂_take 8 h)
    (List.forall₂_drop 8 h)
  rw [rowSum, rowSum, ← h.length_eq]
  refine foldl_add_rel add rest ?_
  generalize (rowSum.columns (xs.take 8) (xs.drop 8) (xs.length / 8 - 1)).1 = few at totals
  generalize (rowSum.columns (ys.take 8) (ys.drop 8) (xs.length / 8 - 1)).1 = few' at totals
  -- Lists that agree in length are both of eight totals, or neither is.
  split
  · simp only [List.forall₂_cons_left_iff, List.forall₂_nil_left_iff] at totals
    obtain ⟨a, _, ha, ⟨b, _, hb, ⟨c, _, hc, ⟨d, _, hd, ⟨e, _, he, ⟨f, _, hf, ⟨g, _, hg,
      ⟨h, _, hh, rfl, rfl⟩, rfl⟩, rfl⟩, rfl⟩, rfl⟩, rfl⟩, rfl⟩, rfl⟩ := totals
    exact add (add (add ha hb) (add hc hd)) (add (add he hf) (add hg hh))
  · rename_i notEight
    split
    · simp only [List.forall₂_cons_right_iff, List.forall₂_nil_right_iff] at totals
      obtain ⟨a, _, -, ⟨b, _, -, ⟨c, _, -, ⟨d, _, -, ⟨e, _, -, ⟨f, _, -, ⟨g, _, -,
        ⟨h, _, -, rfl, rfl⟩, rfl⟩, rfl⟩, rfl⟩, rfl⟩, rfl⟩, rfl⟩, rfl⟩ := totals
      exact absurd rfl (notEight a b c d e f g h)
    · exact plainSum_rel zero add totals

theorem laneSum_rel {xs : List α} {ys : List β} (h : List.Forall₂ R xs ys) :
    R (laneSum xs) (laneSum ys) := by
  have length := h.length_eq
  fun_induction laneSum xs generalizing ys with
  | case1 xs short =>
    rw [length] at short
    rw [laneSum.eq_def ys, if_pos short]
    exact plainSum_rel zero add h
  | case2 xs long row =>
    rw [length] at long row
    rw [laneSum.eq_def ys, if_neg long, if_pos row]
    exact rowSum_rel zero add h
  | case3 xs long big half inside left =>
    rename_i right
    have both : 0 < xs.length / 2 / 8 * 8 ∧ xs.length / 2 / 8 * 8 < xs.length := inside
    rw [length] at long big
    rw [laneSum.eq_def ys, if_neg long, if_neg big]
    simp only [← length, if_pos both]
    have halves := List.forall₂_take half h
    have halves' := List.forall₂_drop half h
    exact add (left halves halves.length_eq) (right halves' halves'.length_eq)
  | case4 xs long big half =>
    rename_i outside
    have notBoth : ¬ (0 < xs.length / 2 / 8 * 8 ∧ xs.length / 2 / 8 * 8 < xs.length) := outside
    rw [length] at long big
    rw [laneSum.eq_def ys, if_neg long, if_neg big]
    simp only [← length, if_neg notBoth]
    exact rowSum_rel zero add h

end

theorem laneSum_induction {α : Type} [Scalar α] {P : α → Prop} (zero : P Scalar.zero)
    (add : ∀ x y, P x → P y → P (Scalar.add x y)) (xs : List α) (h : ∀ x ∈ xs, P x) :
    P (laneSum xs) :=
  @laneSum_rel α α _ _ (fun x _ => P x) zero (fun hx hy => add _ _ hx hy) xs xs
    (List.forall₂_same.mpr h)

end RecurringPayments
