import RecurringPayments.Detection.Detect
import RecurringPayments.Subscription.Lifecycle
import RecurringPayments.Subscription.Projection
import RecurringPayments.Rule.Application
import RecurringPayments.Rule.Validation
import RecurringPayments.Transaction.Writing

/-!
The report of one day: the recurring groups, the summary of those that look like subscriptions,
and the transactions after the valid rules. Detection and projection see the transactions as they
came; the rules change only what is written out.
-/
namespace RecurringPayments

variable {α : Type} [Scalar α]

/-! ### Rows -/

structure GroupRow (α : Type) where
  merchantKey : String
  category : Value α
  frequency : String
  confidence : α
  level : Value α
  nextDate : String
  averageAmount : α
  variance : α
  isSubscription : Bool
  occurrences : Nat
  transactionIds : String

structure BillRow (α : Type) where
  subscriptionId : Value α
  merchantName : Value α
  dueDate : String
  estimatedAmount : Value α
  daysUntilDue : Int
  isPastDue : Bool

def idSeparator : Char := '|'

def joinIds (ids : List (List Char)) : List Char := Text.joinWith [idSeparator] ids

namespace GroupRow

def ofGroup (d : Detector α) (g : RecurringGroup α) : Except Fault (GroupRow α) := do
  let level ← d.confidenceLevel (.real g.pattern.confidence)
  let nextDate ← g.pattern.nextDate.written
  let ids ← g.members.mapM fun m => Transaction.tagText m.id
  return {
    merchantKey := g.merchantKey
    category := g.category
    frequency := g.pattern.frequency
    confidence := Scalar.roundTo 4 g.pattern.confidence
    level
    nextDate
    averageAmount := Scalar.roundTo 2 g.averageAmount
    variance := Scalar.roundTo 4 g.variance
    isSubscription := g.isSubscription
    occurrences := g.members.length
    transactionIds := String.ofList (joinIds ids) }

def columns : List (String × (GroupRow α → Value α)) := [
  ("merchant_name", fun r => .text r.merchantKey),
  ("category", fun r => r.category),
  ("frequency", fun r => .text r.frequency),
  ("frequency_label", fun r => .text (frequencyLabel r.frequency)),
  ("confidence", fun r => .real r.confidence),
  ("confidence_level", fun r => r.level),
  ("next_date", fun r => .text r.nextDate),
  ("average_amount", fun r => .real r.averageAmount),
  ("variance", fun r => .real r.variance),
  ("is_subscription", fun r => .bool r.isSubscription),
  ("occurrences", fun r => .int r.occurrences),
  ("transaction_ids", fun r => .text r.transactionIds)]

end GroupRow

namespace BillRow

def ofBill (b : Bill α) : Except Fault (BillRow α) := do
  let estimatedAmount ← b.estimatedAmount.roundTo 2
  return {
    subscriptionId := b.subscription.id
    merchantName := b.subscription.merchantName
    dueDate := b.dueDate.shortText
    estimatedAmount
    daysUntilDue := b.daysUntilDue
    isPastDue := b.isPastDue }

def columns : List (String × (BillRow α → Value α)) := [
  ("subscription_id", fun r => r.subscriptionId),
  ("merchant_name", fun r => r.merchantName),
  ("due_date", fun r => .text r.dueDate),
  ("estimated_amount", fun r => r.estimatedAmount),
  ("days_until_due", fun r => .int r.daysUntilDue),
  ("is_past_due", fun r => .bool r.isPastDue)]

end BillRow

/-! ### Rules in use -/

structure RuleSplit (α : Type) where
  usable : List (Rule α) := []
  rejected : List (String × List RuleProblem) := []

namespace RuleSplit

/-- Files problems under an id: a later rule of the same id takes the place of an earlier one. -/
def file (id : String) (problems : List RuleProblem) :
    List (String × List RuleProblem) → List (String × List RuleProblem)
  | [] => [(id, problems)]
  | (other, old) :: rest =>
    if other == id then (other, problems) :: rest else (other, old) :: file id problems rest

def add (s : RuleSplit α) (r : Rule α) : RuleSplit α :=
  if r.isValid then { s with usable := s.usable ++ [r] }
  else { s with rejected := file r.id r.problems s.rejected }

def ofRules (rules : List (Rule α)) : RuleSplit α := rules.foldl add {}

end RuleSplit

/-! ### Reports -/

structure Report (α : Type) where
  groups : List (RecurringGroup α)
  summary : Summary α
  rejectedRules : List (String × List RuleProblem)
  groupRows : List (GroupRow α)
  billRows : List (BillRow α)
  transactionsText : String

structure Analyst (α : Type) where
  detector : Detector α
  projector : Projector α

namespace Analyst

def ofSettings (s : Settings α) : Except Fault (Analyst α) := do
  let detector ← Detector.ofSettings s
  let projector ← Projector.ofSettings s
  return ⟨detector, projector⟩

/-- The id of the subscription promoted at a place, counted from zero. -/
def promotedId (place : Nat) : Value α := .text ("sub-" ++ Value.numberText (place + 1))

def promoteAll (groups : List (RecurringGroup α)) : Except Fault (List (Subscription α)) :=
  ((groups.filter (·.isSubscription)).mapIdx fun i g => (i, g)).mapM fun p =>
    Subscription.promote (promotedId p.1) p.2

def project (a : Analyst α) (groups : List (RecurringGroup α)) (today : When) :
    Except Fault (Summary α) := do
  a.projector.summarize (← promoteAll groups) today

def report (a : Analyst α) (ts : List (Transaction α)) (rules : List (Rule α)) (today : When) :
    Except Fault (Report α) := do
  let groups ← a.detector.detect ts
  let summary ← a.project groups today
  let split := RuleSplit.ofRules rules
  let outcomes ← Rule.applyToMany split.usable ts
  let groupRows ← groups.mapM (GroupRow.ofGroup a.detector)
  let billRows ← summary.upcomingBills.mapM BillRow.ofBill
  let transactionsText ← writeTransactions (outcomes.map (·.transaction))
  return {
    groups
    summary
    rejectedRules := split.rejected
    groupRows
    billRows
    transactionsText }

end Analyst

namespace Report

def groupsText (r : Report α) : String := writeRecords GroupRow.columns r.groupRows

def billsText (r : Report α) : String := writeRecords BillRow.columns r.billRows

end Report

end RecurringPayments
