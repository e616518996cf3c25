import RecurringPayments.Value.Basic
import RecurringPayments.Fault

/-!
Arithmetic on values: whole numbers stay whole, a number mixed with a figure becomes a figure, and
whatever is not a number refuses.
-/
namespace RecurringPayments

namespace Value

variable {α : Type} [Scalar α]

def wholeAsScalar (n : Int) : Except Fault α :=
  if Scalar.inRange (α := α) n then .ok (Scalar.ofInt n) else .error .tooLarge

def scalar : Value α → Except Fault α
  | .bool b => .ok (Scalar.ofInt (if b then 1 else 0))
  | .int n => wholeAsScalar n
  | .real x => .ok x
  | _ => .error .kindMismatch

def combine (onWhole : Int → Int → Int) (onScalar : α → α → α) (v w : Value α) :
    Except Fault (Value α) :=
  match v.whole?, w.whole? with
  | some m, some n => .ok (.int (onWhole m n))
  | _, _ => do return .real (onScalar (← v.scalar) (← w.scalar))

def add (v w : Value α) : Except Fault (Value α) := combine (· + ·) Scalar.add v w

def mul (v w : Value α) : Except Fault (Value α) := combine (· * ·) Scalar.mul v w

def sub (v w : Value α) : Except Fault (Value α) := combine (· - ·) Scalar.sub v w

def magnitude : Value α → Except Fault (Value α)
  | .bool b => .ok (.int (if b then 1 else 0))
  | .int n => .ok (.int n.natAbs)
  | .real x => .ok (.real (Scalar.abs x))
  | _ => .error .kindMismatch

def roundTo (places : Nat) : Value α → Except Fault (Value α)
  | .bool b => .ok (.int (if b then 1 else 0))
  | .int n => .ok (.int n)
  | .real x => .ok (.real (Scalar.roundTo places x))
  | _ => .error .kindMismatch

/-- Numbers and truth values are ordered by size; nothing else has an order. -/
def isOrdered (v : Value α) : Bool := v.whole?.isSome || v.isNumber

def compare (v w : Value α) : Except Fault (Option Ordering) :=
  if v.isOrdered && w.isOrdered then .ok (order? v w) else .error .kindMismatch

def isBelow (v w : Value α) : Except Fault Bool := do
  return (← compare v w) == some .lt

def isAtMost (v w : Value α) : Except Fault Bool := do
  match ← compare v w with
  | some .lt | some .eq => return true
  | _ => return false

end Value

end RecurringPayments
