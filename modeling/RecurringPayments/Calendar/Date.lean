/-!
Calendar dates of the years 1 to 9999, kept as the number of days since the first of them, with
the year, month and day read off that number.
-/
namespace RecurringPayments

def calendarDays : Nat := 3652059

structure Date where
  days : Nat
  inCalendar : days < calendarDays
  deriving DecidableEq, Repr

namespace Calendar

def isLeap (year : Nat) : Bool := year % 4 == 0 && (year % 100 != 0 || year % 400 == 0)

def monthLength (year month : Nat) : Nat :=
  match month with
  | 2 => if isLeap year then 29 else 28
  | 4 | 6 | 9 | 11 => 30
  | _ => 31

def daysBeforeYear (year : Nat) : Nat :=
  365 * (year - 1) + (year - 1) / 4 - (year - 1) / 100 + (year - 1) / 400

def daysInMonths (year : Nat) : (months : Nat) → Nat
  | 0 => 0
  | months + 1 => daysInMonths year months + monthLength year (months + 1)

def yearAndDay (days : Nat) : Nat × Nat :=
  let inEra := days % 146097
  let century := min 3 (inEra / 36524)
  let inCentury := inEra - century * 36524
  let inCycle := inCentury % 1461
  let year := min 3 (inCycle / 365)
  (days / 146097 * 400 + century * 100 + inCentury / 1461 * 4 + year + 1, inCycle - year * 365)

def monthAndDay (year : Nat) (day month : Nat) : (left : Nat) → Nat × Nat
  | 0 => (month, day + 1)
  | left + 1 =>
    if day < monthLength year month then (month, day + 1)
    else monthAndDay year (day - monthLength year month) (month + 1) left

end Calendar

open Calendar

namespace Date

def ofDays? (days : Int) : Option Date :=
  if h : 0 ≤ days ∧ days.toNat < calendarDays then some ⟨days.toNat, h.2⟩ else none

def ofCivil? (year month day : Nat) : Option Date :=
  if 1 ≤ year ∧ year ≤ 9999 ∧ 1 ≤ month ∧ month ≤ 12 ∧ 1 ≤ day ∧ day ≤ monthLength year month then
    ofDays? (daysBeforeYear year + daysInMonths year (month - 1) + (day - 1) : Nat)
  else none

def year (d : Date) : Nat := (yearAndDay d.days).1

def month (d : Date) : Nat :=
  let (year, day) := yearAndDay d.days
  (monthAndDay year day 1 11).1

def day (d : Date) : Nat :=
  let (year, day) := yearAndDay d.days
  (monthAndDay year day 1 11).2

/-- Days from Sunday: the calendar's first day is a Monday. -/
def weekday (d : Date) : Nat := (d.days + 1) % 7

def daysTo (d target : Date) : Int := (target.days : Int) - d.days

def addDays? (d : Date) (n : Int) : Option Date := ofDays? (d.days + n)

end Date

end RecurringPayments
