import RecurringPayments.Rule.Matching
import RecurringPayments.Fault

/-!
Carrying out rules. Later rules see what earlier ones changed. A result also tells whether any
action made a new transaction, be it equal to the old one.
-/
namespace RecurringPayments

variable {α : Type} [Scalar α]

structure Outcome (α : Type) where
  transaction : Transaction α
  replaced : Bool

namespace Action

/-- The transaction after an action; `none` if the action leaves it alone. -/
def perform? (a : Action α) (t : Transaction α) : Option (Transaction α) :=
  match a.type with
  | .text "setCategory" => some { t with category := a.value }
  | .text "addTag" =>
    if t.tags.any (·.same a.value) then none else some { t with tags := t.tags ++ [a.value] }
  | .text "setStatus" => some { t with status := a.value }
  | .text "assignGoal" => some { t with goalId := a.value }
  | .text "markRecurring" => some { t with isRecurring := .bool true, recurringId := a.value }
  | _ => none

def perform (o : Outcome α) (a : Action α) : Outcome α :=
  match a.perform? o.transaction with
  | some t => ⟨t, true⟩
  | none => o

end Action

namespace Rule

def applyTo (o : Outcome α) (r : Rule α) : Except Fault (Outcome α) :=
  if r.isMatch o.transaction then
    match r.actions with
    | some actions => .ok (actions.foldl Action.perform o)
    | none => .error .kindMismatch
  else .ok o

def apply (r : Rule α) (t : Transaction α) : Except Fault (Outcome α) := applyTo ⟨t, false⟩ r

def applyAll (rules : List (Rule α)) (t : Transaction α) : Except Fault (Outcome α) :=
  rules.foldlM applyTo ⟨t, false⟩

def applyToMany (rules : List (Rule α)) (ts : List (Transaction α)) :
    Except Fault (List (Outcome α)) :=
  ts.mapM (applyAll rules)

end Rule

end RecurringPayments
