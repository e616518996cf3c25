import RecurringPayments.Calendar.Layout

/-!
Dates in the two international notations: year, month and day, or year, week and weekday, each
with hyphens or without. A text of seven, eight or ten bytes is read from its front.
-/
namespace RecurringPayments.Calendar

def digits (count : Nat) (s : List Char) : Option (Nat × List Char) :=
  (fixedNumber count 0 s).head?

def hyphen (wanted : Bool) (s : List Char) : Option (List Char) :=
  if !wanted then some s
  else
    match s with
    | '-' :: cs => some cs
    | _ => none

def yearStart (year : Nat) : Nat := daysBeforeYear year % 7

/-- Years that begin on a Thursday, and leap years that begin on a Wednesday, have 53 weeks. -/
def weeksIn (year : Nat) : Nat :=
  if yearStart year == 3 || (yearStart year == 2 && isLeap year) then 53 else 52

/-- The Monday of the first week of a year, the week that holds its first Thursday, in days since
the start of the calendar. -/
def firstMonday (year : Nat) : Int :=
  let start := yearStart year
  (daysBeforeYear year : Int) - start + (if 3 < start then 7 else 0)

def ofWeek? (year week weekday : Nat) : Option Date :=
  if 1 ≤ year ∧ 1 ≤ week ∧ week ≤ weeksIn year ∧ 1 ≤ weekday ∧ weekday ≤ 7 then
    Date.ofDays? (firstMonday year + (week - 1 : Nat) * 7 + (weekday - 1 : Nat))
  else none

/-- A week may end the text: then its Monday is meant. -/
def readWeek? (year : Nat) (hyphens : Bool) (s : List Char) : Option Date := do
  let (week, s) ← digits 2 s
  if s.isEmpty then ofWeek? year week 1
  else
    let (weekday, _) ← digits 1 (← hyphen hyphens s)
    ofWeek? year week weekday

def readIso? (s : List Char) : Option Date := do
  let (year, s) ← digits 4 s
  let hyphens := s.head? == some '-'
  match ← hyphen hyphens s with
  | 'W' :: s => readWeek? year hyphens s
  | s =>
    let (month, s) ← digits 2 s
    let (day, _) ← digits 2 (← hyphen hyphens s)
    Date.ofCivil? year month day

end RecurringPayments.Calendar

namespace RecurringPayments

def Date.ofIso? (s : String) : Option Date :=
  if [7, 8, 10].contains s.utf8ByteSize then Calendar.readIso? s.toList else none

end RecurringPayments
