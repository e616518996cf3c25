import RecurringPayments.Proofs.List.Paired
import RecurringPayments.Proofs.Report.Completion
import RecurringPayments.Proofs.Subscription.Upcoming

/-!
From groups to bills. The groups that look like subscriptions are numbered in their order; each
number stands for one subscription, and for one bill if that is due within the window.
-/
namespace RecurringPayments

open Result

variable {α : Type} [Scalar α]

/-- A bill of the subscription that the group at a place was promoted to. -/
structure Bill.IsFor (b : Bill α) (today : Date) (place : Nat) (g : RecurringGroup α) : Prop where
  id : b.subscription.id = Analyst.promotedId place
  merchantName : g.members.getLast?.map (·.description) = some b.subscription.merchantName
  dueDate : g.pattern.nextDate = .day b.dueDate
  estimatedAmount : b.estimatedAmount = .real g.averageAmount
  daysUntilDue : b.daysUntilDue = today.daysTo b.dueDate
  isPastDue : b.isPastDue = decide (b.daysUntilDue < 0)

namespace Subscription

section

variable {subs : List (Subscription α)} (active : ∀ s ∈ subs, s.status = Status.active)
include active

omit [Scalar α]

end

end Subscription

namespace Analyst

omit [Scalar α] in
theorem promotedId_injective {i j : Nat} (same : (promotedId i : Value α) = promotedId j) :
    i = j := by
  have numbers : Value.numberText (i + 1) = Value.numberText (j + 1) :=
    (String.append_right_inj _).mp (Value.text.inj same)
  exact Nat.succ.inj (Nat.repr_inj.mp numbers)

variable {groups : List (RecurringGroup α)} {subs : List (Subscription α)}
  (promoted : promoteAll groups = .ok subs)
include promoted

variable {window : Int} {today : Date}

end Analyst

end RecurringPayments
