import RecurringPayments.Transaction.Basic

/-!
What detection reports: the cadence of a merchant's payments, and the group of its transactions.
-/
namespace RecurringPayments

structure Pattern (α : Type) where
  frequency : String
  interval : Int
  nextDate : When
  confidence : α
  /-- Days from Sunday. -/
  dayOfWeek : Option Int := none
  dayOfMonth : Option Int := none

structure Member (α : Type) where
  id : Value α
  date : When
  amount : Value α
  description : Value α

structure RecurringGroup (α : Type) where
  merchantKey : String
  category : Value α
  pattern : Pattern α
  members : List (Member α)
  averageAmount : α
  variance : α
  isSubscription : Bool

def Member.ofTransaction {α : Type} (t : Transaction α) : Member α :=
  ⟨t.id, t.date, t.amount, t.merchant⟩

def frequencies : List String := ["daily", "weekly", "biweekly", "monthly", "quarterly", "yearly"]

def frequencyLabels : List (String × String) :=
  [("daily", "Daily"), ("weekly", "Weekly"), ("biweekly", "Every 2 weeks"),
    ("monthly", "Monthly"), ("quarterly", "Quarterly"), ("yearly", "Yearly")]

/-- How a frequency is shown; an unknown one as it is. -/
def frequencyLabel (frequency : String) : String :=
  (frequencyLabels.lookup frequency).getD frequency

def isWeekAnchored (frequency : String) : Bool := ["weekly", "biweekly"].contains frequency

def isMonthAnchored (frequency : String) : Bool :=
  ["monthly", "quarterly", "yearly"].contains frequency

end RecurringPayments
