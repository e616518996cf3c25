import RecurringPayments.Value.Text

/-!
Transactions. A field holds whatever its record held; only the date has a type of its own.
-/
namespace RecurringPayments

structure Transaction (α : Type) where
  id : Value α
  date : When
  amount : Value α
  merchant : Value α
  category : Value α
  account : Value α
  type : Value α
  status : Value α
  tags : List (Value α) := []
  goalId : Value α := .null
  isRecurring : Value α := .bool false
  recurringId : Value α := .null
  notes : Value α := .null

end RecurringPayments
