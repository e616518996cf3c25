import RecurringPayments.Detection.Cadence
import RecurringPayments.Settings.Basic
import RecurringPayments.Value.Arith

/-!
The thresholds of detection, as the configuration gives them. Only the names of the frequency
windows are looked at beforehand; a threshold of a wrong kind shows when it is first compared.
-/
namespace RecurringPayments

variable {α : Type} [Scalar α]

structure Detector (α : Type) where
  minOccurrences : Value α
  minConfidence : Value α
  maxVariance : Value α
  minSubscriptionConfidence : Value α
  amountTolerance : Value α
  windows : Value α
  levels : Value α

namespace Detector

def windowNames : Value α → Except Fault (List (Value α))
  | .mapping entries => .ok (entries.map (·.1))
  | .list items => .ok items
  | .text s => .ok (s.toList.map fun c => .text (String.ofList [c]))
  | _ => .error .kindMismatch

def isFrequency (v : Value α) : Bool := frequencies.any fun f => v.same (.text f)

def ofSettings (s : Settings α) : Except Fault (Detector α) := do
  let b ← s.get "recurring_detection"
  let minOccurrences ← Settings.entryOf b "min_occurrences"
  let minConfidence ← Settings.entryOf b "min_confidence"
  let maxVariance ← Settings.entryOf b "subscription_max_variance"
  let minSubscriptionConfidence ← Settings.entryOf b "subscription_min_confidence"
  let amountTolerance ← Settings.entryOf b "amount_match_tolerance"
  let windows ← Settings.entryOf b "frequency_buckets"
  let unknown := (← windowNames windows).filter fun v => !isFrequency v
  if !unknown.isEmpty then
    throw (.unknownBuckets (unknown.map Value.quoted) (frequencies.map Value.quotedText))
  let levels ← s.get "confidence_levels"
  return ⟨minOccurrences, minConfidence, maxVariance, minSubscriptionConfidence, amountTolerance,
    windows, levels⟩

/-- The first window that holds the mean gap, both ends included. -/
def firstWindow? (mean : α) : List (Value α × Value α) → Except Fault (Option String)
  | [] => .ok none
  | (name, window) :: rest => do
    if ← (← Settings.entryOf window "min_gap_days").isAtMost (.real mean) then
      if ← (Value.real mean).isAtMost (← Settings.entryOf window "max_gap_days") then
        return some name.plain
    firstWindow? mean rest

def classify (d : Detector α) (mean : α) : Except Fault (Option String) := do
  firstWindow? mean (← Settings.entriesOf d.windows)

def firstLevel? (confidence : Value α) : List (Value α × Value α) → Except Fault (Option (Value α))
  | [] => .ok none
  | (name, range) :: rest => do
    if ← (← Settings.entryOf range "min_score").isAtMost confidence then
      if ← confidence.isBelow (← Settings.entryOf range "max_score") then
        return some name
    firstLevel? confidence rest

def confidenceLevel (d : Detector α) (confidence : Value α) : Except Fault (Value α) := do
  return (← firstLevel? confidence (← Settings.entriesOf d.levels)).getD (.text "low")

/-- Whether two amounts differ, relative to their mean size, by no more than the tolerance. -/
def similarAmounts (d : Detector α) (amount reference : α) : Except Fault Bool :=
  let scale := Scalar.div (Scalar.add (Scalar.abs amount) (Scalar.abs reference)) (Scalar.ofInt 2)
  if Scalar.same scale Scalar.zero then .ok true
  else
    let difference := Scalar.div (Scalar.abs (Scalar.sub amount reference)) scale
    (Value.real difference).isAtMost d.amountTolerance

end Detector

end RecurringPayments
