import RecurringPayments.Text.Blank
import Mathlib

/-!
What trimming leaves of a text.
-/
namespace RecurringPayments.Text

theorem trimLeft_eq_nil_iff (s : List Char) : trimLeft s = [] ↔ ∀ c ∈ s, isBlank c = true := by
  simp [trimLeft]

theorem trimRight_eq_nil_iff (s : List Char) : trimRight s = [] ↔ ∀ c ∈ s, isBlank c = true := by
  simp [trimRight]

theorem trim_eq_nil_iff (s : List Char) : trim s = [] ↔ ∀ c ∈ s, isBlank c = true := by
  constructor
  · intro nothing
    have left : ∀ c ∈ trimLeft s, isBlank c = true := (trimRight_eq_nil_iff _).mp nothing
    intro c hc
    rw [← List.takeWhile_append_dropWhile (p := isBlank) (l := s)] at hc
    rcases List.mem_append.mp hc with front | back
    · exact List.mem_takeWhile_imp front
    · exact left c back
  · intro blank
    have left : trimLeft s = [] := (trimLeft_eq_nil_iff s).mpr blank
    rw [trim, left]
    rfl

end RecurringPayments.Text
