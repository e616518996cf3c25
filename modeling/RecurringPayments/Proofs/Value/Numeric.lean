import RecurringPayments.Proofs.Number.Laws
import RecurringPayments.Proofs.Result
import RecurringPayments.Value.Arith

/-!
The numbers that values stand for. Between numeric values the library's comparisons, which change
with the kinds of the two, are all comparison of these numbers.
-/
namespace RecurringPayments.Value

open LawfulScalar Result

variable {α : Type} [Scalar α] [LawfulScalar α]

noncomputable def number? : Value α → Option EReal
  | .bool b => some (((if b then 1 else 0 : ℤ) : ℝ) : EReal)
  | .int n => some ((n : ℝ) : EReal)
  | .real x => LawfulScalar.value? x
  | _ => none

theorem cmp_intCast (m n : Int) : cmp ((m : ℝ) : EReal) ((n : ℝ) : EReal) = Ord.compare m n := by
  have mono : StrictMono fun k : Int => ((k : ℝ) : EReal) := fun a b h => by
    have : (a : ℝ) < b := by exact_mod_cast h
    exact EReal.coe_lt_coe_iff.mpr this
  exact (mono.cmp_map_eq m n).trans (cmp_eq_compare m n)

theorem whole_or_real {v : Value α} {a : EReal} (h : v.number? = some a) :
    (∃ n, v.whole? = some n ∧ a = ((n : ℝ) : EReal)) ∨ ∃ x, v = .real x ∧ value? x = some a := by
  cases v with
  | bool b =>
    rw [number?, Option.some_inj] at h
    exact .inl ⟨_, rfl, h.symm⟩
  | int n =>
    rw [number?, Option.some_inj] at h
    exact .inl ⟨n, rfl, h.symm⟩
  | real x => exact .inr ⟨x, rfl, h⟩
  | _ => simp [number?] at h

theorem isOrdered_of_number {v : Value α} {a : EReal} (h : v.number? = some a) :
    v.isOrdered = true := by
  cases v <;> simp [number?] at h <;> rfl

theorem order?_real_right {v : Value α} {a : EReal} (hv : v.number? = some a) (y : α) :
    order? v (.real y) = (value? y).map fun b => cmp a b := by
  rcases whole_or_real hv with ⟨m, whole, rfl⟩ | ⟨x, rfl, hx⟩
  · have mixed : order? v (.real y) = (Scalar.orderInt y m).map Ordering.swap := by
      have right : (Value.real y).whole? = none := rfl
      unfold order?
      rw [whole, right]
    rw [mixed, orderInt_eq, Option.map_map]
    congr 1
    funext b
    exact cmp_swap _ _
  · have figures : order? (.real x) (.real y) = Scalar.order x y := rfl
    rw [figures, order_eq, hx]
    rfl

theorem order?_real_left {w : Value α} {b : EReal} (hw : w.number? = some b) (x : α) :
    order? (.real x) w = (value? x).map fun a => cmp a b := by
  rcases whole_or_real hw with ⟨n, whole, rfl⟩ | ⟨y, rfl, hy⟩
  · have mixed : order? (.real x) w = Scalar.orderInt x n := by
      have left : (Value.real x).whole? = none := rfl
      unfold order?
      rw [whole, left]
    rw [mixed, orderInt_eq]
  · have figures : order? (.real x) (.real y) = Scalar.order x y := rfl
    rw [figures, order_eq, hy]
    cases value? x <;> rfl

omit [LawfulScalar α] in
theorem order?_whole {v w : Value α} {m n : Int} (hv : v.whole? = some m) (hw : w.whole? = some n) :
    order? v w = some (cmp ((m : ℝ) : EReal) ((n : ℝ) : EReal)) := by
  unfold order?
  rw [cmp_intCast, hv, hw]

section

variable {v w : Value α} {a b : EReal} (hv : v.number? = some a) (hw : w.number? = some b)
include hv hw

theorem order?_number : order? v w = some (cmp a b) := by
  rcases whole_or_real hv with ⟨m, wholeV, rfl⟩ | ⟨x, rfl, hx⟩
  · rcases whole_or_real hw with ⟨n, wholeW, rfl⟩ | ⟨y, rfl, hy⟩
    · exact order?_whole wholeV wholeW
    · rw [order?_real_right hv, hy, Option.map_some]
  · rw [order?_real_left hw, hx, Option.map_some]

theorem compare_number : v.compare w = .ok (some (cmp a b)) := by
  rw [compare, isOrdered_of_number hv, isOrdered_of_number hw, order?_number hv hw]
  rfl

theorem isBelow_number : v.isBelow w = .ok (decide (a < b)) := by
  rw [isBelow, compare_number hv hw, ok_bind, pure_eq]
  congr 1
  rw [Bool.eq_iff_iff, beq_iff_eq, Option.some_inj, cmp_eq_lt_iff, decide_eq_true_iff]

theorem isAtMost_number : v.isAtMost w = .ok (decide (a ≤ b)) := by
  rw [isAtMost, compare_number hv hw, ok_bind]
  rcases lt_trichotomy a b with h | rfl | h
  · rw [(cmp_eq_lt_iff a b).mpr h, decide_eq_true h.le]
    rfl
  · rw [cmp_self_eq_eq, decide_eq_true le_rfl]
    rfl
  · rw [(cmp_eq_gt_iff a b).mpr h, decide_eq_false (not_le.mpr h)]
    rfl

end

theorem isAtMost_undefined_right {v : Value α} {a : EReal} (hv : v.number? = some a) {y : α}
    (hy : value? y = none) : v.isAtMost (.real y) = .ok false := by
  have ordered : (v.isOrdered && (Value.real y).isOrdered) = true := by
    rw [isOrdered_of_number hv]
    rfl
  rw [isAtMost, compare, if_pos ordered, order?_real_right hv, hy]
  rfl

omit [LawfulScalar α] in
theorem exists_isBelow {v w : Value α} (hv : v.isOrdered = true) (hw : w.isOrdered = true) :
    ∃ b, v.isBelow w = .ok b := by
  rw [isBelow, compare, hv, hw]
  exact ⟨_, rfl⟩

omit [LawfulScalar α] in
theorem exists_isAtMost {v w : Value α} (hv : v.isOrdered = true) (hw : w.isOrdered = true) :
    ∃ b, v.isAtMost w = .ok b := by
  rw [isAtMost, compare, hv, hw]
  cases order? v w with
  | none => exact ⟨_, rfl⟩
  | some order => cases order <;> exact ⟨_, rfl⟩

end RecurringPayments.Value
