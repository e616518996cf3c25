import RecurringPayments.Rule.Basic
import RecurringPayments.Transaction.Basic
import RecurringPayments.Text.Lower
import RecurringPayments.Text.Blank

/-!
When a rule matches a transaction. A condition that makes no sense, such as an order between
texts, does not hold.
-/
namespace RecurringPayments

variable {α : Type}

def Transaction.field? (t : Transaction α) (name : String) : Option (Value α) :=
  match name with
  | "merchant" => some t.merchant
  | "category" => some t.category
  | "amount" => some t.amount
  | "account" => some t.account
  | "type" => some t.type
  | "status" => some t.status
  | _ => none

namespace Value

variable [Scalar α]

/-- Equality of conditions: numbers by size, all else within one kind. -/
def strictlySame (v w : Value α) : Bool :=
  if v.isNumber && w.isNumber then v.same w
  else v.kindName == w.kindName && v.same w

/-- Whether one text occurs in another, without regard to case. `none` for other kinds. -/
def contains? (v w : Value α) : Option Bool :=
  match v, w with
  | .text s, .text needle =>
    some (Text.isInfix (Text.lower needle.toList) (Text.lower s.toList))
  | _, _ => none

def numericOrder? (v w : Value α) : Option Ordering :=
  if v.isNumber && w.isNumber then order? v w else none

end Value

namespace Condition

variable [Scalar α]

def compare (operator : String) (actual expected : Value α) : Bool :=
  match operator with
  | "equals" => actual.strictlySame expected
  | "notEquals" => !actual.strictlySame expected
  | "contains" => (actual.contains? expected).getD false
  | "notContains" => ((actual.contains? expected).map not).getD false
  | "greaterThan" => actual.numericOrder? expected == some .gt
  | "lessThan" => actual.numericOrder? expected == some .lt
  | "greaterThanOrEqual" => (actual.numericOrder? expected).any (· != .lt)
  | "lessThanOrEqual" => (actual.numericOrder? expected).any (· != .gt)
  | _ => false

def holds (c : Condition α) (t : Transaction α) : Bool :=
  match c.field, c.operator with
  | .text field, .text operator =>
    match t.field? field with
    | some actual => compare operator actual c.value
    | none => false
  | _, _ => false

end Condition

namespace Rule

variable [Scalar α]

/-- A disabled rule, and one without conditions, matches nothing. Any logic but `and` asks for one
condition only. -/
def isMatch (r : Rule α) (t : Transaction α) : Bool :=
  r.enabled && !r.conditions.isEmpty &&
    (if r.logic.isName "and" then r.conditions.all (·.holds t)
     else r.conditions.any (·.holds t))

def matching (rules : List (Rule α)) (t : Transaction α) : List (Rule α) :=
  rules.filter (·.isMatch t)

end Rule

end RecurringPayments
