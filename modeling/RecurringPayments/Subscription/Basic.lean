import RecurringPayments.Detection.Group

/-!
Tracked subscriptions.
-/
namespace RecurringPayments

structure Subscription (α : Type) where
  id : Value α
  merchantName : Value α
  amount : Value α
  pattern : Pattern α
  category : Value α
  firstDetected : When
  lastCharged : When
  status : String
  transactionIds : List (Value α) := []
  averageAmount : Value α
  totalSpent : Value α
  occurrences : Value α := .int 0
  notes : Value α := .null
  cancellationDate : When := .never
  trialEndDate : When := .never
  isLowUsage : Value α := .bool false

namespace Status

def active : String := "active"
def cancelled : String := "cancelled"
def paused : String := "paused"
def trial : String := "trial"

def all : List String := [active, cancelled, paused, trial]

end Status

namespace Subscription

variable {α : Type}

def isActive (s : Subscription α) : Bool := s.status == Status.active

end Subscription

end RecurringPayments
