import RecurringPayments.Subscription.Basic
import RecurringPayments.Calendar.Layout
import RecurringPayments.Transaction.Reading
import RecurringPayments.Value.Arith

/-!
Due dates seen from a day: how far away they are, how that is said, and which bills come up.
-/
namespace RecurringPayments

namespace When

def toDate : When → Except Fault Date
  | never => .error .notANumber
  | day d => .ok d
  | moment m => .ok m.date
  | text s =>
    if DateColumn.missingMarks.contains s then .error .notANumber
    else
      match Calendar.readMoment? s.toList with
      | some m => .ok m.date
      | none => .error .unreadableDate

end When

namespace Schedule

/-- Whole days from `today` until `target`, negative when the target is past. -/
def daysUntil (target today : When) : Except Fault Int := do
  let target ← target.toDate
  let today ← today.toDate
  return today.daysTo target

def dayText (target today : Date) : String :=
  let label := Calendar.monthName target.month ++ " " ++ Value.numberText target.day
  if target.year == today.year then label else label ++ ", " ++ Value.numberText target.year

def dueText (target today : Date) : String :=
  let days := today.daysTo target
  if days < 0 then "Overdue"
  else if days == 0 then "Today"
  else if days == 1 then "Tomorrow"
  else if days ≤ 7 then "In " ++ Value.intText days ++ " days"
  else if days ≤ 30 then "In " ++ Value.intText ((days + 6) / 7) ++ " weeks"
  else dayText target today

def nextBillingText (target today : When) : Except Fault String := do
  let target ← target.toDate
  let today ← today.toDate
  return dueText target today

end Schedule

structure Bill (α : Type) where
  subscription : Subscription α
  dueDate : Date
  estimatedAmount : Value α
  daysUntilDue : Int
  isPastDue : Bool

namespace Bill

variable {α : Type} [Scalar α]

/-- The bill of a subscription, unless it is due after the window. There is no earliest date. -/
def ofSubscription (window : Value α) (today : When) (s : Subscription α) :
    Except Fault (Option (Bill α)) := do
  let days ← Schedule.daysUntil s.pattern.nextDate today
  if ← window.isBelow (.int days) then return none
  return some {
    subscription := s
    dueDate := ← s.pattern.nextDate.toDate
    estimatedAmount := s.averageAmount
    daysUntilDue := days
    isPastDue := days < 0 }

def isNoLater (a b : Bill α) : Bool := a.daysUntilDue ≤ b.daysUntilDue

def upcoming (window : Value α) (subs : List (Subscription α)) (today : When) :
    Except Fault (List (Bill α)) := do
  let bills ← subs.filterMapM (ofSubscription window today)
  return bills.mergeSort isNoLater

end Bill

end RecurringPayments
