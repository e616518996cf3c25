import RecurringPayments.Value.Basic

/-!
The configuration used where no other is given.
-/
namespace RecurringPayments.Settings

variable {α : Type} [Scalar α]

/-- `digits * 10 ^ (-places)`. -/
def figure (digits places : Nat) : Value α := .real (Scalar.ofDecimal false digits (-places))

def block (entries : List (String × Value α)) : Value α :=
  .mapping (entries.map fun e => (.text e.1, e.2))

def window (low high : Int) : Value α :=
  block [("min_gap_days", .int low), ("max_gap_days", .int high)]

def level (low high : Value α) : Value α := block [("min_score", low), ("max_score", high)]

def defaultBuckets : Value α :=
  block [
    ("daily", window 0 2),
    ("weekly", window 6 8),
    ("biweekly", window 13 15),
    ("monthly", window 28 32),
    ("quarterly", window 88 95),
    ("yearly", window 360 370)]

def defaultDetection : Value α :=
  block [
    ("min_occurrences", .int 2),
    ("min_confidence", figure 6 1),
    ("subscription_max_variance", figure 15 2),
    ("subscription_min_confidence", figure 75 2),
    ("amount_match_tolerance", figure 10 2),
    ("frequency_buckets", defaultBuckets)]

def third : Value α := figure 3333333333333333 16

def twelfth : Value α := figure 8333333333333333 17

def defaultMonthlyFactors : Value α :=
  block [
    ("daily", figure 300 1),
    ("weekly", figure 40 1),
    ("biweekly", figure 20 1),
    ("monthly", figure 10 1),
    ("quarterly", third),
    ("yearly", twelfth)]

def defaultCategoryFactors : Value α :=
  block [("monthly", figure 10 1), ("quarterly", third), ("yearly", twelfth)]

def defaultProjection : Value α :=
  block [
    ("monthly_factors", defaultMonthlyFactors),
    ("category_factors", defaultCategoryFactors),
    ("upcoming_window_days", .int 30),
    ("review_amount_threshold", figure 500 1)]

def defaultLevels : Value α :=
  block [
    ("very_high", level (figure 90 2) (figure 101 2)),
    ("high", level (figure 75 2) (figure 90 2)),
    ("medium", level (figure 60 2) (figure 75 2)),
    ("low", level (figure 0 2) (figure 60 2))]

def defaultRulesPath : String := "config/rules.yaml"

def defaultDocument : Value α :=
  block [
    ("recurring_detection", defaultDetection),
    ("subscription_projection", defaultProjection),
    ("confidence_levels", defaultLevels),
    ("rule_engine", block [("default_rules_path", .text defaultRulesPath)])]

end RecurringPayments.Settings
