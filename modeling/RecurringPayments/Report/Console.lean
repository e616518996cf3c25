import RecurringPayments.Report.Basic
import RecurringPayments.Number.Decimal

/-!
The report as it is shown on a console: one line for each group, the figures of the day, and the
problems of the rules that were left out.
-/
namespace RecurringPayments

variable {α : Type} [Scalar α]

namespace Console

def line (s : String) : String := s ++ "\n"

def bar (c : Char) (width : Nat) : String := String.ofList (List.replicate width c)

def padRight (width : Nat) (s : String) : String := s ++ bar ' ' (width - s.length)

def padLeft (width : Nat) (s : String) : String := bar ' ' (width - s.length) ++ s

def money (x : α) : String :=
  match Scalar.magnitudeAt 2 x with
  | some m => (if Scalar.isNegative x then "-" else "") ++ String.ofList (Decimal.fixedText 2 m)
  | none => Scalar.text x

def count (n : Nat) : String := String.ofList (Decimal.fixedText 0 n)

def header (today : Date) : String :=
  line "" ++ line (bar '=' 80) ++
    line ("  RECURRING PAYMENTS SUMMARY  (as of " ++ today.text ++ ")") ++ line (bar '=' 80)

/-- The text of a level; nothing among texts shows as an undefined figure. -/
def levelTexts (rows : List (GroupRow α)) : List String :=
  (Column.unify (rows.map (·.level))).map Value.plain

def groupLine (r : GroupRow α) (level : String) : String :=
  line ("  " ++ (if r.isSubscription then "*" else " ") ++ " " ++ padRight 28 r.merchantKey ++
    " " ++ padRight 14 (frequencyLabel r.frequency) ++ " " ++ padLeft 10 (money r.averageAmount) ++
    "  (" ++ level ++ ")")

def groupsPart (rows : List (GroupRow α)) : String :=
  if rows.isEmpty then line "" ++ line "  No recurring payments detected."
  else
    line "" ++ line "  Detected Recurring Payments:" ++ line ("  " ++ bar '-' 60) ++
      "".intercalate (List.zipWith groupLine rows (levelTexts rows)) ++
      line "  (* = subscription-like)"

def figuresPart (s : Summary α) : String :=
  line "" ++ line ("  Monthly cost:       " ++ padLeft 10 (money s.monthlyCost)) ++
    line ("  Yearly projection:  " ++ padLeft 10 (money s.yearlyProjection)) ++
    line ("  Upcoming bills:     " ++ padLeft 10 (count s.upcomingBills.length))

def rejectedLine (p : String × List RuleProblem) : String :=
  line ("    " ++ p.1 ++ ": " ++ "; ".intercalate (p.2.map RuleProblem.text))

def rejectedPart (rejected : List (String × List RuleProblem)) : String :=
  if rejected.isEmpty then ""
  else
    line "" ++ line "  Skipped invalid rules:" ++ "".intercalate (rejected.map rejectedLine)

end Console

open Console

def Report.consoleText (r : Report α) : String :=
  header r.summary.today ++ groupsPart r.groupRows ++ figuresPart r.summary ++
    rejectedPart r.rejectedRules ++ line (bar '=' 80) ++ line ""

end RecurringPayments
