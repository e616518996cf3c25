import RecurringPayments.Subscription.Basic
import RecurringPayments.Value.Arith

/-!
The life of a subscription: it is promoted from a detected group, may be paused and resumed, and
is cancelled for good. Nothing else changes a status.
-/
namespace RecurringPayments

variable {α : Type} [Scalar α]

inductive Transition where
  | pause
  | resume
  | cancel (on : When)
  deriving DecidableEq, Repr

def mayEnter (target current : String) : Bool :=
  if target == Status.paused then current == Status.active
  else if target == Status.active then current == Status.paused
  else if target == Status.cancelled then current == Status.active
  else false

def Transition.target : Transition → String
  | pause => Status.paused
  | resume => Status.active
  | cancel _ => Status.cancelled

/-- A new content of one field, or of a field that there is not. -/
inductive Change (α : Type) where
  | id (v : Value α)
  | merchantName (v : Value α)
  | amount (v : Value α)
  | pattern (p : Pattern α)
  | category (v : Value α)
  | firstDetected (d : When)
  | lastCharged (d : When)
  | status
  | transactionIds (ids : List (Value α))
  | averageAmount (v : Value α)
  | totalSpent (v : Value α)
  | occurrences (v : Value α)
  | notes (v : Value α)
  | cancellationDate (d : When)
  | trialEndDate (d : When)
  | isLowUsage (v : Value α)
  | unknown

namespace Change

def isStatus : Change α → Bool
  | status => true
  | _ => false

def isUnknown : Change α → Bool
  | unknown => true
  | _ => false

def apply (c : Change α) (s : Subscription α) : Subscription α :=
  match c with
  | id v => { s with id := v }
  | merchantName v => { s with merchantName := v }
  | amount v => { s with amount := v }
  | pattern p => { s with pattern := p }
  | category v => { s with category := v }
  | firstDetected d => { s with firstDetected := d }
  | lastCharged d => { s with lastCharged := d }
  | transactionIds ids => { s with transactionIds := ids }
  | averageAmount v => { s with averageAmount := v }
  | totalSpent v => { s with totalSpent := v }
  | occurrences v => { s with occurrences := v }
  | notes v => { s with notes := v }
  | cancellationDate d => { s with cancellationDate := d }
  | trialEndDate d => { s with trialEndDate := d }
  | isLowUsage v => { s with isLowUsage := v }
  | status | unknown => s

end Change

namespace Subscription

def canEnter (s : Subscription α) (target : String) : Bool := mayEnter target s.status

def transition (t : Transition) (s : Subscription α) : Except Fault (Subscription α) :=
  if s.canEnter t.target then
    match t with
    | .cancel on => .ok { s with status := t.target, cancellationDate := on }
    | _ => .ok { s with status := t.target }
  else .error (.transition s.id.plain s.status t.target)

def withNote (note : Value α) (s : Subscription α) : Subscription α := { s with notes := note }

def update (changes : List (Change α)) (s : Subscription α) : Except Fault (Subscription α) :=
  if changes.any Change.isStatus then .error .statusChange
  else if changes.any Change.isUnknown then .error .kindMismatch
  else .ok (changes.foldl (fun s c => c.apply s) s)

/-- Applies a step to every subscription with an id; if one of them refuses, none is changed. -/
def applyTo (id : Value α) (step : Subscription α → Except Fault (Subscription α))
    (subs : List (Subscription α)) : Except Fault (List (Subscription α)) :=
  subs.mapM fun s => if s.id.same id then step s else .ok s

/-- The sum of the sizes of amounts, a whole number as long as they all are. -/
def totalSize (amounts : List (Value α)) : Except Fault (Value α) :=
  amounts.foldlM (fun total a => do total.add (← a.magnitude)) (.int 0)

def promote (id : Value α) (g : RecurringGroup α) : Except Fault (Subscription α) := do
  let totalSpent ← totalSize (g.members.map (·.amount))
  return {
    id
    merchantName := (g.members.getLast?.map (·.description)).getD (.text g.merchantKey)
    amount := .real g.averageAmount
    pattern := g.pattern
    category := g.category
    firstDetected := (g.members.head?.map (·.date)).getD g.pattern.nextDate
    lastCharged := (g.members.getLast?.map (·.date)).getD g.pattern.nextDate
    status := Status.active
    transactionIds := g.members.map (·.id)
    averageAmount := .real g.averageAmount
    totalSpent
    occurrences := .int g.members.length }

end Subscription

end RecurringPayments
