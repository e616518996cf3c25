import RecurringPayments.Proofs.List.Placed
import RecurringPayments.Proofs.Result
import RecurringPayments.Subscription.Schedule

/-!
Which bills come up, and in which order: one for each subscription due within the window, the
earliest first, and those of one day in the order of the subscriptions. Each bill is kept beside the
place of its subscription.
-/
namespace RecurringPayments.Bill

open Result

variable {α : Type} [Scalar α]

theorem of_ofSubscription {window : Value α} {today : When} {s : Subscription α} {b : Bill α}
    (made : ofSubscription window today s = .ok (some b)) :
    b.subscription = s ∧ b.estimatedAmount = s.averageAmount := by
  obtain ⟨days, -, made⟩ := bind_eq_ok_iff.mp made
  obtain ⟨late, -, made⟩ := bind_eq_ok_iff.mp made
  cases late with
  | true => cases made
  | false =>
    obtain ⟨due, -, made⟩ := bind_eq_ok_iff.mp made
    cases made
    exact ⟨rfl, rfl⟩

def within? (window : Int) (today : Date) (s : Subscription α) : Option (Bill α) :=
  match s.pattern.nextDate with
  | .day next =>
    if window < today.daysTo next then none
    else some ⟨s, next, s.averageAmount, today.daysTo next, decide (today.daysTo next < 0)⟩
  | _ => none

section

variable (window : Int) (today : Date) (subs : List (Subscription α))

def places : List (Bill α × Nat) :=
  subs.zipIdx.filterMap fun p => (within? window today p.1).map fun b => (b, p.2)

def schedule : List (Bill α × Nat) :=
  (places window today subs).mergeSort fun p q => isNoLater p.1 q.1

variable {window today subs}

omit [Scalar α] in
theorem mem_schedule {p : Bill α × Nat} : p ∈ schedule window today subs ↔
    ∃ s, subs[p.2]? = some s ∧ within? window today s = some p.1 :=
  Placed.mem_sorted

end

end RecurringPayments.Bill
