import RecurringPayments.Proofs.Number.Exact
import RecurringPayments.Proofs.Result
import RecurringPayments.Value.Arith

/-!
Arithmetic on values where nothing is rounded. Whether numbers are whole decides how a result is
formed, not what it is.
-/
namespace RecurringPayments.Value

open Result

variable {α : Type} [Scalar α]

/-- The value is a number, and this is what its figure reads as. -/
def StandsFor (value : α → ℝ) (v : Value α) (r : ℝ) : Prop :=
  ∃ x, v.scalar = .ok x ∧ value x = r

theorem scalar_of_whole (unbounded : ∀ n, Scalar.inRange (α := α) n = true) {v : Value α} {n : Int}
    (whole : v.whole? = some n) : v.scalar = .ok (Scalar.ofInt n) := by
  cases v with
  | bool b =>
    cases whole
    rfl
  | int m =>
    cases whole
    rw [scalar, wholeAsScalar, if_pos (unbounded n)]
  | _ => cases whole

variable {value : α → ℝ} (unrounded : Scalar.IsUnrounded value)
include unrounded

theorem standsFor_int (n : Int) : (Value.int n).StandsFor value n :=
  ⟨_, scalar_of_whole unrounded.inRange rfl, unrounded.ofInt n⟩

theorem exists_combine {onWhole : Int → Int → Int} {onScalar : α → α → α} {op : ℝ → ℝ → ℝ}
    (whole : ∀ m n : Int, (onWhole m n : ℝ) = op m n)
    (figures : ∀ x y, value (onScalar x y) = op (value x) (value y)) {v w : Value α} {r s : ℝ}
    (hv : v.StandsFor value r) (hw : w.StandsFor value s) :
    ∃ u, combine onWhole onScalar v w = .ok u ∧ u.StandsFor value (op r s) := by
  obtain ⟨x, hx, rfl⟩ := hv
  obtain ⟨y, hy, rfl⟩ := hw
  rw [combine]
  split
  · rename_i m n isWhole isWhole'
    rw [scalar_of_whole unrounded.inRange isWhole, Except.ok.injEq] at hx
    rw [scalar_of_whole unrounded.inRange isWhole', Except.ok.injEq] at hy
    refine ⟨_, rfl, ?_⟩
    rw [← hx, ← hy, unrounded.ofInt, unrounded.ofInt, ← whole]
    exact standsFor_int unrounded _
  · rw [hx, hy]
    exact ⟨_, rfl, _, rfl, figures x y⟩

theorem exists_magnitude {v : Value α} {r : ℝ} (hv : v.StandsFor value r) :
    ∃ u, v.magnitude = .ok u ∧ u.StandsFor value |r| := by
  obtain ⟨x, hx, rfl⟩ := hv
  have whole {n : Int} (isWhole : v.whole? = some n) : value x = n := by
    rw [scalar_of_whole unrounded.inRange isWhole, Except.ok.injEq] at hx
    rw [← hx, unrounded.ofInt]
  cases v with
  | bool b =>
    refine ⟨_, rfl, ?_⟩
    rw [whole rfl]
    cases b
    all_goals
      convert standsFor_int unrounded _ using 1
      simp
  | int n =>
    refine ⟨_, rfl, ?_⟩
    rw [whole rfl, ← Int.cast_abs, Int.abs_eq_natAbs]
    exact standsFor_int unrounded _
  | real y =>
    cases hx
    exact ⟨_, rfl, _, rfl, unrounded.abs x⟩
  | _ => cases hx

end RecurringPayments.Value
