import RecurringPayments.Value.Basic

/-!
Rules for transactions: conditions joined by a logic, and actions carried out in order.
-/
namespace RecurringPayments

/-- What a condition compares its field with. Only text and numeric conditions can be checked for
agreement with their field and operator. -/
inductive ConditionKind where
  | text
  | numeric
  | untyped
  deriving DecidableEq, Repr

structure Condition (α : Type) where
  kind : ConditionKind
  field : Value α
  operator : Value α
  value : Value α
  id : Value α := .text ""

structure Action (α : Type) where
  type : Value α
  value : Value α
  id : Value α := .text ""

structure Rule (α : Type) where
  id : String
  name : Value α
  enabled : Bool := true
  logic : Value α := .text "and"
  conditions : List (Condition α) := []
  /-- Absent actions are no empty list: such a rule cannot be carried out. -/
  actions : Option (List (Action α)) := some []
  description : Value α := .null
  createdAt : Value α := .text ""
  updatedAt : Value α := .text ""

def ConditionKind.name : ConditionKind → String
  | .text => "text"
  | .numeric => "numeric"
  | .untyped => "untyped"

def ConditionKind.ofValue {α : Type} (v : Value α) : ConditionKind :=
  if v.isNumber then .numeric else if v.isText then .text else .untyped

def textFields : List String := ["merchant", "category", "account", "type", "status"]

def numericFields : List String := ["amount"]

def conditionFields : List String :=
  ["merchant", "category", "amount", "account", "type", "status"]

def textOperators : List String := ["equals", "notEquals", "contains", "notContains"]

def orderingOperators : List String :=
  ["greaterThan", "lessThan", "greaterThanOrEqual", "lessThanOrEqual"]

def numericOperators : List String := ["equals", "notEquals"] ++ orderingOperators

def conditionOperators : List String := textOperators ++ orderingOperators

def actionTypes : List String :=
  ["setCategory", "addTag", "setStatus", "assignGoal", "markRecurring"]

def logics : List String := ["and", "or"]

namespace Value

variable {α : Type}

def isOneOf (names : List String) : Value α → Bool
  | .text s => names.contains s
  | _ => false

def isName (name : String) : Value α → Bool
  | .text s => s == name
  | _ => false

end Value

end RecurringPayments
