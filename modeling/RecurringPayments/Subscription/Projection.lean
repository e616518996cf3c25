import RecurringPayments.Subscription.Schedule
import RecurringPayments.Settings.Basic
import RecurringPayments.Number.Sum
import RecurringPayments.Table.Basic

/-!
What subscriptions cost and how they are grouped. The monthly cost scales every charge to a month;
spending by category scales only the frequencies that the configuration lists for it.
-/
namespace RecurringPayments

variable {α : Type} [Scalar α]

structure Projector (α : Type) where
  monthlyFactors : Value α
  categoryFactors : Value α
  window : Value α
  reviewThreshold : Value α

namespace Projector

def ofSettings (s : Settings α) : Except Fault (Projector α) := do
  let b ← s.get "subscription_projection"
  let monthlyFactors ← Settings.entryOf b "monthly_factors"
  let categoryFactors ← Settings.entryOf b "category_factors"
  let window ← Settings.entryOf b "upcoming_window_days"
  let reviewThreshold ← Settings.entryOf b "review_amount_threshold"
  return ⟨monthlyFactors, categoryFactors, window, reviewThreshold⟩

/-- The factor of a frequency; an unknown one counts as daily. -/
def monthlyFactor (p : Projector α) (frequency : String) : Except Fault (Value α) := do
  let entries ← Settings.entriesOf p.monthlyFactors
  let daily ← Settings.entryOf p.monthlyFactors "daily"
  return (Value.entry? frequency entries).getD daily

def monthlyEquivalent (p : Projector α) (s : Subscription α) : Except Fault (Value α) := do
  let factor ← p.monthlyFactor s.pattern.frequency
  s.amount.mul factor

def monthlyCost (p : Projector α) (subs : List (Subscription α)) : Except Fault α :=
  subs.foldlM (fun total s => do return Scalar.add total (← (← p.monthlyEquivalent s).scalar))
    Scalar.zero

def yearlyCost (monthly : α) : α := Scalar.mul monthly (Scalar.ofInt 12)

/-! ### Spending by category -/

/-- The factor of a frequency; one that is not listed is taken at face value. -/
def categoryFactor (p : Projector α) (frequency : String) : Except Fault (Value α) := do
  let entries ← Settings.entriesOf p.categoryFactors
  return (Value.entry? frequency entries).getD (.real Scalar.one)

structure CategoryCharge (α : Type) where
  category : Value α
  amount : Value α

def categoryCharge (p : Projector α) (s : Subscription α) : Except Fault (CategoryCharge α) := do
  let factor ← p.categoryFactor s.pattern.frequency
  return ⟨s.category, ← s.amount.mul factor⟩

def sumDefined (amounts : List α) : α :=
  compensatedSum (amounts.filter fun x => !Scalar.isUndefined x)

/-- Whole numbers are added as such where there is nothing else. -/
def totalOf (allWhole : Bool) (amounts : List (Value α)) : Except Fault α :=
  if allWhole then Value.wholeAsScalar ((amounts.filterMap Value.whole?).foldl (· + ·) 0)
  else return sumDefined (← amounts.mapM Value.scalar)

def categoriesOf (charges : List (CategoryCharge α)) : List (Value α) :=
  (charges.map (·.category)).foldl
    (fun seen c => if Column.isGap c || seen.any (·.same c) then seen else seen ++ [c]) []

/-- The larger total first; an undefined one last. -/
def isNoSmaller (a b : String × α) : Bool :=
  if Scalar.isUndefined b.2 then true
  else if Scalar.isUndefined a.2 then false
  else !Scalar.lt a.2 b.2

def categorySpending (p : Projector α) (subs : List (Subscription α)) :
    Except Fault (List (String × α)) := do
  let charges ← subs.mapM p.categoryCharge
  let allWhole := charges.all fun c => c.amount.whole?.isSome
  let totals ← (categoriesOf charges).mapM fun category => do
    let own := charges.filter fun c => c.category.same category
    return (category.plain, ← totalOf allWhole (own.map (·.amount)))
  return totals.mergeSort isNoSmaller

/-! ### Groupings -/

/-- Whether a subscription deserves a second look: hardly used, or expensive. -/
def isToReview (p : Projector α) (s : Subscription α) : Except Fault Bool :=
  if !s.isLowUsage.isEmpty then .ok true else p.reviewThreshold.isBelow s.amount

def toReview (p : Projector α) (subs : List (Subscription α)) :
    Except Fault (List (Subscription α)) :=
  subs.filterM p.isToReview

end Projector

namespace Subscription

def active (subs : List (Subscription α)) : List (Subscription α) := subs.filter isActive

def addToCategory (s : Subscription α) :
    List (Value α × List (Subscription α)) → List (Value α × List (Subscription α))
  | [] => [(s.category, [s])]
  | (c, own) :: rest =>
    if c.same s.category then (c, own ++ [s]) :: rest else (c, own) :: addToCategory s rest

def byCategory (subs : List (Subscription α)) :
    Except Fault (List (Value α × List (Subscription α))) :=
  if subs.all fun s => s.category.isHashable then
    .ok (subs.foldl (fun groups s => addToCategory s groups) [])
  else .error .kindMismatch

def statusCounts (subs : List (Subscription α)) : List (String × Nat) :=
  Status.all.map fun status => (status, subs.countP (·.status == status))

end Subscription

/-- The figures of one day. All but the counts are of the active subscriptions. -/
structure Summary (α : Type) where
  today : Date
  active : List (Subscription α)
  monthlyCost : α
  yearlyProjection : α
  upcomingBills : List (Bill α)
  categorySpending : List (String × α)
  toReview : List (Subscription α)
  statusCounts : List (String × Nat)

namespace Projector

def summarize (p : Projector α) (subs : List (Subscription α)) (today : When) :
    Except Fault (Summary α) := do
  let active := Subscription.active subs
  let monthlyCost ← p.monthlyCost active
  let day ← today.toDate
  let upcomingBills ← Bill.upcoming p.window active today
  let categorySpending ← p.categorySpending active
  let toReview ← p.toReview active
  return {
    today := day
    active
    monthlyCost
    yearlyProjection := yearlyCost monthlyCost
    upcomingBills
    categorySpending
    toReview
    statusCounts := Subscription.statusCounts subs }

end Projector

end RecurringPayments
