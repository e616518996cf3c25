import RecurringPayments.Rule.Matching
import RecurringPayments.Proofs.Number.Floating
import RecurringPayments.Proofs.Rule.Validity
import RecurringPayments.Proofs.Value.Numeric

/-!
The dual of a rule has the opposite conditions under the other logic. Where every condition
compares a text with a text or a number with a number, a transaction is matched by exactly one of
the two. A condition that compares anything else fails together with its opposite, and so does one
on an undefined figure.
-/
namespace RecurringPayments

variable {α : Type}

/-! ### Opposites -/

namespace Condition

def opposite : String → String
  | "equals" => "notEquals"
  | "notEquals" => "equals"
  | "contains" => "notContains"
  | "notContains" => "contains"
  | "greaterThan" => "lessThanOrEqual"
  | "lessThanOrEqual" => "greaterThan"
  | "lessThan" => "greaterThanOrEqual"
  | "greaterThanOrEqual" => "lessThan"
  | other => other

def dual (c : Condition α) : Condition α :=
  match c.operator with
  | .text operator => { c with operator := .text (opposite operator) }
  | _ => c

end Condition

/-- The opposite conditions, of which one is enough where all were asked for, and the reverse. -/
def Rule.dual (r : Rule α) : Rule α :=
  { r with
    logic := if r.logic.isName "and" then .text "or" else .text "and"
    conditions := r.conditions.map Condition.dual }

/-! ### What can be compared -/

variable [Scalar α]

def Value.isSized : Value α → Bool
  | .int _ => true
  | .real x => !Scalar.isUndefined x
  | _ => false

/-- Every field that conditions read holds what its name promises. -/
structure Transaction.IsComparable (t : Transaction α) : Prop where
  texts : ∀ field ∈ textFields, ∃ s, t.field? field = some (.text s)
  amount : t.amount.isSized = true

namespace Condition

structure ReadsText (c : Condition α) : Prop where
  field : c.field.isOneOf textFields = true
  operator : c.operator.isOneOf textOperators = true
  value : c.value.isText = true

structure ReadsNumber (c : Condition α) : Prop where
  field : c.field.isOneOf numericFields = true
  operator : c.operator.isOneOf numericOperators = true
  value : c.value.isSized = true

def IsComparable (c : Condition α) : Prop := c.ReadsText ∨ c.ReadsNumber

end Condition

/-! ### Comparisons -/

namespace Value

variable [LawfulScalar α]

theorem exists_number_of_isSized {v : Value α} (sized : v.isSized = true) :
    v.isNumber = true ∧ ∃ a, v.number? = some a := by
  cases v with
  | int n => exact ⟨rfl, _, rfl⟩
  | real x =>
    refine ⟨rfl, Option.isSome_iff_exists.mp ?_⟩
    rw [isSized, Bool.not_eq_true', Scalar.isUndefined, LawfulScalar.order_eq] at sized
    cases number : LawfulScalar.value? x with
    | none => simp [number] at sized
    | some a => simp [number?, number]
  | _ => simp [isSized] at sized

theorem exists_numericOrder? {v w : Value α} (hv : v.isSized = true) (hw : w.isSized = true) :
    ∃ order, v.numericOrder? w = some order := by
  obtain ⟨numberV, a, ha⟩ := exists_number_of_isSized hv
  obtain ⟨numberW, b, hb⟩ := exists_number_of_isSized hw
  refine ⟨cmp a b, ?_⟩
  rw [numericOrder?, numberV, numberW]
  exact order?_number ha hb

end Value

namespace Condition

theorem compare_opposite_text {operator : String} (known : operator ∈ textOperators)
    (s needle : String) : compare (opposite operator) (.text s : Value α) (.text needle) =
      !compare operator (.text s : Value α) (.text needle) := by
  simp only [textOperators, List.mem_cons, List.not_mem_nil, or_false] at known
  rcases known with rfl | rfl | rfl | rfl <;> simp [compare, opposite, Value.contains?]

theorem compare_opposite_number {operator : String} (known : operator ∈ numericOperators)
    {v w : Value α} {order : Ordering} (ordered : v.numericOrder? w = some order) :
    compare (opposite operator) v w = !compare operator v w := by
  simp only [numericOperators, orderingOperators, List.cons_append, List.nil_append,
    List.mem_cons, List.not_mem_nil, or_false] at known
  rcases known with rfl | rfl | rfl | rfl | rfl | rfl <;>
    cases order <;> simp [compare, opposite, ordered]

variable {t : Transaction α}

theorem holds_dual [LawfulScalar α] (ht : t.IsComparable) {c : Condition α} (hc : c.IsComparable) :
    c.dual.holds t = !c.holds t := by
  rcases hc with hc | hc
  · obtain ⟨field, hfield, nameField⟩ := Value.isOneOf_iff.mp hc.field
    obtain ⟨operator, known, nameOperator⟩ := Value.isOneOf_iff.mp hc.operator
    obtain ⟨s, actual⟩ := ht.texts field hfield
    have value := hc.value
    cases expected : c.value with
    | text needle =>
      simp only [holds, dual, nameField, nameOperator, actual, expected]
      exact compare_opposite_text known s needle
    | _ => simp [expected, Value.isText] at value
  · obtain ⟨field, hfield, nameField⟩ := Value.isOneOf_iff.mp hc.field
    obtain ⟨operator, known, nameOperator⟩ := Value.isOneOf_iff.mp hc.operator
    obtain rfl : field = "amount" := by simpa [numericFields] using hfield
    obtain ⟨order, ordered⟩ := Value.exists_numericOrder? ht.amount hc.value
    simp only [holds, dual, nameField, nameOperator, Transaction.field?]
    exact compare_opposite_number known ordered

theorem all_dual {conditions : List (Condition α)}
    (opposed : ∀ c ∈ conditions, c.dual.holds t = !c.holds t) :
    (conditions.map dual).all (·.holds t) = !conditions.any (·.holds t) := by
  induction conditions with
  | nil => rfl
  | cons c rest ih =>
    rw [List.forall_mem_cons] at opposed
    simp only [List.map_cons, List.all_cons, List.any_cons, Bool.not_or, opposed.1, ih opposed.2]

theorem any_dual {conditions : List (Condition α)}
    (opposed : ∀ c ∈ conditions, c.dual.holds t = !c.holds t) :
    (conditions.map dual).any (·.holds t) = !conditions.all (·.holds t) := by
  induction conditions with
  | nil => rfl
  | cons c rest ih =>
    rw [List.forall_mem_cons] at opposed
    simp only [List.map_cons, List.any_cons, List.all_cons, Bool.not_and, opposed.1, ih opposed.2]

end Condition

/-! ### Whole rules -/

namespace Rule

theorem isMatch_of_and {r : Rule α} (enabled : r.enabled = true) (some : r.conditions ≠ [])
    (logic : r.logic = .text "and") (t : Transaction α) :
    r.isMatch t = r.conditions.all (·.holds t) := by
  simp [isMatch, enabled, some, logic, Value.isName]

theorem isMatch_of_or {r : Rule α} (enabled : r.enabled = true) (some : r.conditions ≠ [])
    (logic : r.logic = .text "or") (t : Transaction α) :
    r.isMatch t = r.conditions.any (·.holds t) := by
  simp [isMatch, enabled, some, logic, Value.isName]

/-- A rule matches exactly the transactions that its dual does not match. -/
theorem isMatch_dual [LawfulScalar α] {t : Transaction α} (ht : t.IsComparable) {r : Rule α}
    (enabled : r.enabled = true) (logic : r.logic.isOneOf logics = true) (some : r.conditions ≠ [])
    (comparable : ∀ c ∈ r.conditions, c.IsComparable) : r.isMatch t = !r.dual.isMatch t := by
  have opposed : ∀ c ∈ r.conditions, c.dual.holds t = !c.holds t := fun c hc =>
    Condition.holds_dual ht (comparable c hc)
  have enabled' : r.dual.enabled = true := enabled
  have some' : r.dual.conditions ≠ [] := mt List.map_eq_nil_iff.mp some
  obtain ⟨name, known, hname⟩ := Value.isOneOf_iff.mp logic
  simp only [logics, List.mem_cons, List.not_mem_nil, or_false] at known
  rcases known with rfl | rfl
  · have other : r.dual.logic = .text "or" := by simp [dual, hname, Value.isName]
    rw [isMatch_of_and enabled some hname, isMatch_of_or enabled' some' other, dual,
      Condition.any_dual opposed, Bool.not_not]
  · have other : r.dual.logic = .text "and" := by simp [dual, hname, Value.isName]
    rw [isMatch_of_or enabled some hname, isMatch_of_and enabled' some' other, dual,
      Condition.all_dual opposed, Bool.not_not]

def largeTransaction : Transaction Float where
  id := .text "large"
  date := .never
  amount := .real 9007199254740992
  merchant := .text "Gym ÉTÉ"
  category := .text "Health"
  account := .text "main"
  type := .text "debit"
  status := .text "posted"

def largeRule : Rule Float where
  id := "large"
  name := .text "Large"
  logic := .text "and"
  conditions := [
    ⟨.numeric, .text "amount", .text "lessThan", .int 9007199254740993, .text ""⟩,
    ⟨.text, .text "merchant", .text "contains", .text "été", .text ""⟩,
    ⟨.text, .text "category", .text "notEquals", .text "health", .text ""⟩]

theorem isMatch_dual_largeRule :
    largeTransaction.IsComparable ∧ largeRule.enabled = true ∧
    largeRule.logic.isOneOf logics = true ∧ largeRule.conditions ≠ [] ∧
    (∀ c ∈ largeRule.conditions, c.IsComparable) ∧
    largeRule.isMatch largeTransaction = true ∧
      largeRule.dual.isMatch largeTransaction = false := by
  have comparable : largeTransaction.IsComparable := by
    refine ⟨?_, by decide +kernel⟩
    simp [textFields, Transaction.field?, largeTransaction]
  have all : ∀ c ∈ largeRule.conditions, c.IsComparable := by
    simp only [largeRule, List.forall_mem_cons]
    exact ⟨.inr ⟨by decide, by decide, rfl⟩, .inl ⟨by decide, by decide, rfl⟩,
      .inl ⟨by decide, by decide, rfl⟩, by simp⟩
  have matched : largeRule.isMatch largeTransaction = true := by decide +kernel
  have unlike := isMatch_dual comparable rfl (by decide) (by simp [largeRule]) all
  rw [matched] at unlike
  exact ⟨comparable, rfl, by decide, by simp [largeRule], all, matched, by simpa using unlike⟩

end Rule

end RecurringPayments
