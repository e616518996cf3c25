import RecurringPayments.Rule.Basic
import RecurringPayments.Value.Text
import RecurringPayments.Text.Blank

/-!
Checking a rule: every problem is reported, none stops the check.
-/
namespace RecurringPayments

variable {α : Type} [Scalar α]

inductive ConditionProblem where
  | noField
  | noOperator
  | noValue
  | valueKind
  | unknownField (name : String)
  | unknownOperator (name : String)
  | fieldKind (field kind : String)
  | operatorKind (operator kind : String)
  deriving DecidableEq, Repr

inductive ActionProblem where
  | noType
  | unknownType (name : String)
  | noValue
  deriving DecidableEq, Repr

inductive RuleProblem where
  | noName
  | unknownLogic (name : String)
  | noConditions
  | condition (n : Nat) (problem : ConditionProblem)
  | noActions
  | action (n : Nat) (problem : ActionProblem)
  deriving DecidableEq, Repr

namespace ConditionKind

def fields : ConditionKind → List String
  | text => textFields
  | numeric => numericFields
  | untyped => []

def operators : ConditionKind → List String
  | text => textOperators
  | numeric => numericOperators
  | untyped => []

end ConditionKind

namespace Condition

/-- Names that are not known. Empty ones are not unknown but missing. -/
def unknownNames (c : Condition α) : List ConditionProblem :=
  (if !c.field.isEmpty && !c.field.isOneOf conditionFields then
    [.unknownField c.field.plain] else []) ++
  (if !c.operator.isEmpty && !c.operator.isOneOf conditionOperators then
    [.unknownOperator c.operator.plain] else [])

def disagreements (c : Condition α) : List ConditionProblem :=
  (if !c.field.isEmpty && !c.field.isOneOf c.kind.fields then
    [.fieldKind c.field.plain c.kind.name] else []) ++
  (if !c.operator.isEmpty && !c.operator.isOneOf c.kind.operators then
    [.operatorKind c.operator.plain c.kind.name] else [])

/-- Disagreements are looked for only among known names of a kind that can be checked. -/
def typeProblems (c : Condition α) : List ConditionProblem :=
  let unknown := c.unknownNames
  if !unknown.isEmpty || c.kind == .untyped then unknown else c.disagreements

def valueProblems (c : Condition α) : List ConditionProblem :=
  match c.value with
  | .null => [.noValue]
  | .text s => if s.isEmpty then [.noValue] else []
  | v => if v.isNumber then [] else [.valueKind]

def problems (c : Condition α) : List ConditionProblem :=
  (if c.field.isEmpty then [.noField] else []) ++
  (if c.operator.isEmpty then [.noOperator] else []) ++
  c.valueProblems ++ c.typeProblems

end Condition

def isBlankText (s : String) : Bool := (Text.trim s.toList).isEmpty

namespace Action

def problems (a : Action α) : List ActionProblem :=
  (if a.type.isEmpty then [.noType]
   else if !a.type.isOneOf actionTypes then [.unknownType a.type.plain]
   else []) ++
  (match a.value with
    | .text s => if isBlankText s then [.noValue] else []
    | _ => [.noValue])

end Action

namespace Rule

def problems (r : Rule α) : List RuleProblem :=
  let actions := r.actions.getD []
  (if r.name.isEmpty || isBlankText r.name.plain then [.noName] else []) ++
  (if !r.logic.isOneOf logics then [.unknownLogic r.logic.plain] else []) ++
  (if r.conditions.isEmpty then [.noConditions] else []) ++
  (r.conditions.mapIdx fun i c => c.problems.map (.condition (i + 1))).flatten ++
  (if actions.isEmpty then [.noActions] else []) ++
  (actions.mapIdx fun i a => a.problems.map (.action (i + 1))).flatten

def isValid (r : Rule α) : Bool := r.problems.isEmpty

end Rule

/-! ### Wording -/

def ConditionProblem.text : ConditionProblem → String
  | noField => "Field is required"
  | noOperator => "Operator is required"
  | noValue => "Value is required"
  | valueKind => "Value must be text or a number"
  | unknownField name => "Unknown field '" ++ name ++ "'"
  | unknownOperator name => "Unknown operator '" ++ name ++ "'"
  | fieldKind field kind => "Field '" ++ field ++ "' does not take a " ++ kind ++ " value"
  | operatorKind operator kind =>
    "Operator '" ++ operator ++ "' cannot be used with a " ++ kind ++ " value"

def ActionProblem.text : ActionProblem → String
  | noType => "Type is required"
  | unknownType name => "Unknown action type '" ++ name ++ "'"
  | noValue => "Value is required"

def RuleProblem.text : RuleProblem → String
  | noName => "Rule name is required"
  | unknownLogic name => "Unknown logic '" ++ name ++ "' (expected 'and' or 'or')"
  | noConditions => "At least one condition is required"
  | condition n problem => "Condition " ++ Value.numberText n ++ ": " ++ problem.text
  | noActions => "At least one action is required"
  | action n problem => "Action " ++ Value.numberText n ++ ": " ++ problem.text

end RecurringPayments
