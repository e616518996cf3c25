import RecurringPayments.Calendar.Date
import RecurringPayments.Text.Quoted

/-!
Points in time: a date with a time of day, and their written forms.
-/
namespace RecurringPayments

/-- A time of day, in microseconds since midnight, on a date. -/
structure Moment where
  date : Date
  micros : Nat
  /-- The distance of the local clock from the common one, in minutes. -/
  zone : Option Int := none
  deriving DecidableEq, Repr

def microsPerDay : Nat := 86400000000

namespace Calendar

def twoDigits (n : Nat) : List Char := Text.padded 2 (Nat.toDigits 10 n)

def monthNames : List String :=
  ["Jan", "Feb", "Mar", "Apr", "May", "Jun", "Jul", "Aug", "Sep", "Oct", "Nov", "Dec"]

def monthName (month : Nat) : String := monthNames.getD (month - 1) ""

end Calendar

open Calendar

namespace Date

def write (d : Date) : List Char :=
  Text.padded 4 (Nat.toDigits 10 d.year) ++ '-' :: twoDigits d.month ++ '-' :: twoDigits d.day

def text (d : Date) : String := String.ofList d.write

def shortText (d : Date) : String :=
  String.ofList (Nat.toDigits 10 d.year ++ '-' :: twoDigits d.month ++ '-' :: twoDigits d.day)

end Date

namespace Moment

/-- Microseconds since the start of the calendar. -/
def instant (m : Moment) : Int := (m.date.days : Int) * microsPerDay + m.micros

def shareZone : List Moment → Bool
  | [] => true
  | m :: rest => rest.all fun n => n.zone == m.zone

theorem shareZone_of_bare {ms : List Moment} (bare : ∀ m ∈ ms, m.zone = none) :
    shareZone ms = true := by
  cases ms with
  | nil => rfl
  | cons m rest =>
    rw [List.forall_mem_cons] at bare
    rw [shareZone, bare.1, List.all_eq_true]
    exact fun n hn => beq_iff_eq.mpr (bare.2 n hn)

def writeZone (minutes : Int) : List Char :=
  (if minutes < 0 then '-' else '+') :: twoDigits (minutes.natAbs / 60) ++
    ':' :: twoDigits (minutes.natAbs % 60)

def writeClock (m : Moment) : List Char :=
  let seconds := m.micros / 1000000
  let fraction := m.micros % 1000000
  twoDigits (seconds / 3600) ++ ':' :: twoDigits (seconds / 60 % 60) ++
    ':' :: twoDigits (seconds % 60) ++
    (if fraction == 0 then [] else '.' :: Text.padded 6 (Nat.toDigits 10 fraction)) ++
    (match m.zone with
      | some minutes => writeZone minutes
      | none => [])

def write (separator : Char) (m : Moment) : List Char :=
  m.date.write ++ separator :: m.writeClock

def text (separator : Char) (m : Moment) : String := String.ofList (m.write separator)

end Moment

inductive When where
  | never
  | day (d : Date)
  | moment (m : Moment)
  | text (s : String)
  deriving DecidableEq, Repr

def When.shortText? : When → Option String
  | day d => some d.shortText
  | moment m => some m.date.shortText
  | never | text _ => none

end RecurringPayments
