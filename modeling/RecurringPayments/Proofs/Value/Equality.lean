import RecurringPayments.Value.Basic

/-!
Equality of values where one side is a text: nothing else equals it.
-/
namespace RecurringPayments

variable {α : Type} [Scalar α]

theorem Value.same_text_iff (v : Value α) (s : String) : v.same (.text s) = true ↔ v = .text s := by
  cases v <;> simp [same, order?, whole?]

end RecurringPayments
