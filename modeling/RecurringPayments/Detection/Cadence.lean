import RecurringPayments.Detection.Group
import RecurringPayments.Number.Sum
import RecurringPayments.Calendar.Moment
import RecurringPayments.Value.Arith

/-!
The cadence of a run of dates: whole-day gaps between neighbours, how even they are, and the day
on which the next one is due.
-/
namespace RecurringPayments.Cadence

/-- Differences in time are counted in nanoseconds in a word of 64 bits, the sign among them. -/
def inWord (nanos : Int) : Int := Int.bmod nanos UInt64.size

def nanosPerDay : Nat := 86400000000000

/-- The days between two instants given in microseconds, a part of a day counted in full. -/
def gapDays (earlier later : Int) : Nat :=
  ((inWord ((later - earlier) * 1000)).natAbs + (nanosPerDay - 1)) / nanosPerDay

variable {α : Type} [Scalar α]

/-- A gap beside a transaction without a date is undefined. -/
def gap (earlier later : Option Int) : α :=
  match earlier, later with
  | some a, some b => Scalar.ofInt (gapDays a b)
  | _, _ => Scalar.undefined

def gaps : List (Option Int) → List α
  | a :: b :: rest => gap a b :: gaps (b :: rest)
  | _ => []

def confidence (mean deviation : α) : α :=
  if Scalar.le mean Scalar.zero then Scalar.zero
  else
    Scalar.atMost
      (Scalar.atLeast Scalar.zero (Scalar.sub Scalar.one (Scalar.div deviation mean)))
      Scalar.one

def half : α := Scalar.ofDecimal false 5 (-1)

def roundHalfUp? (x : α) : Option Int := Scalar.floor? (Scalar.add x half)

def roundHalfUp (v : Value α) : Except Fault Int := do
  let x ← v.scalar
  match roundHalfUp? x with
  | some n => return n
  | none => throw (if Scalar.isUndefined x then .notANumber else .tooLarge)

end RecurringPayments.Cadence
