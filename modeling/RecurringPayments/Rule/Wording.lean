import RecurringPayments.Rule.Basic
import RecurringPayments.Value.Text
import RecurringPayments.Fault

/-!
Conditions and actions in words.
-/
namespace RecurringPayments

variable {α : Type} [Scalar α]

def operatorLabels : List (String × String) :=
  [("equals", "equals"), ("notEquals", "does not equal"), ("contains", "contains"),
    ("notContains", "does not contain"), ("greaterThan", "is greater than"),
    ("lessThan", "is less than"), ("greaterThanOrEqual", "is greater than or equal to"),
    ("lessThanOrEqual", "is less than or equal to")]

def actionLabels : List (String × String) :=
  [("setCategory", "Set category to"), ("addTag", "Add tag"), ("setStatus", "Set status to"),
    ("assignGoal", "Assign to goal"), ("markRecurring", "Mark as recurring")]

/-- The label of a name, or the text of anything else that can be looked up. -/
def labelOf (labels : List (String × String)) (v : Value α) : Except Fault String :=
  match v with
  | .text s => .ok ((labels.lookup s).getD s)
  | v => if v.isHashable then .ok v.plain else .error .kindMismatch

def inQuotes (s : String) : String := "\"" ++ s ++ "\""

def shownValue (v : Value α) : Except Fault String :=
  match v with
  | .int n => if Scalar.inRange (α := α) n then .ok (Value.intText n) else .error .tooLarge
  | .real x =>
    match Scalar.floor? x with
    | some n => .ok (if Scalar.orderInt x n == some .eq then Value.intText n else Scalar.text x)
    | none => .ok (Scalar.text x)
  | v => .ok v.plain

def Condition.text (c : Condition α) : Except Fault String := do
  let label ← labelOf operatorLabels c.operator
  return c.field.plain ++ " " ++ label ++ " " ++ inQuotes (← shownValue c.value)

def Action.text (a : Action α) : Except Fault String := do
  return (← labelOf actionLabels a.type) ++ " " ++ inQuotes a.value.plain

end RecurringPayments
