import RecurringPayments.Detection.Detector
import RecurringPayments.Transaction.MerchantKey
import RecurringPayments.Transaction.Reading

/-!
Detection: transactions are gathered by merchant, each merchant's dates are sorted and their
cadence inferred, and the merchants whose payments recur are reported, the surest first.
-/
namespace RecurringPayments

variable {α : Type} [Scalar α]

structure Charge (α : Type) where
  key : String
  instant : Option Int
  amount : α
  transaction : Transaction α

namespace Charge

def amountOf (v : Value α) : Except Fault α :=
  match v with
  | .text s =>
    match Number.ofText? s.toList with
    | some x => .ok x
    | none => .error .notANumber
  | v => v.scalar

def momentOfText (layout : Option Calendar.Layout) (s : String) : Except Fault (Option Moment) :=
  if DateColumn.missingMarks.contains s then .ok none
  else
    match layout with
    | some l =>
      match l.read? s.toList with
      | some m => .ok (some m)
      | none => .error .notANumber
    | none =>
      match Calendar.readMoment? s.toList with
      | some m => .ok (some m)
      | none => .error .unreadableDate

def momentOf (layout : Option Calendar.Layout) : When → Except Fault (Option Moment)
  | .never => .ok none
  | .day d => .ok (some ⟨d, 0, none⟩)
  | .moment m => .ok (some m)
  | .text s => momentOfText layout s

/-- Whether a date field holds something: the first one that does may choose the layout. -/
def isPresent : When → Bool
  | .never => false
  | .text s => !DateColumn.missingMarks.contains s
  | _ => true

def layoutOf (dates : List When) : Option Calendar.Layout :=
  match dates.find? isPresent with
  | some (.text s) => Calendar.Layout.of? s.toList
  | _ => none

def assemble : List (Transaction α) → List (Option Int) → List α → List (Charge α)
  | t :: ts, i :: is, x :: xs =>
    ⟨MerchantKey.ofValue t.merchant, i, x, t⟩ :: assemble ts is xs
  | _, _, _ => []

/-- All dates are read before the first amount, and stand on the clock of one zone. -/
def ofTransactions (ts : List (Transaction α)) : Except Fault (List (Charge α)) := do
  let layout := layoutOf (ts.map (·.date))
  let moments ← ts.mapM fun t => momentOf layout t.date
  if !Moment.shareZone (moments.filterMap id) then throw .mixedZones
  let amounts ← ts.mapM fun t => amountOf t.amount
  return assemble ts (moments.map (·.map Moment.instant)) amounts

/-- By time; what has no date comes last. -/
def isNoLater (a b : Charge α) : Bool :=
  match a.instant, b.instant with
  | some m, some n => m ≤ n
  | some _, none => true
  | none, some _ => false
  | none, none => true

end Charge

def gatherByMerchant (charges : List (Charge α)) : List (String × List (Charge α)) :=
  (charges.map (·.key)).eraseDups.map fun key => (key, charges.filter (·.key == key))

namespace Detector

def inferPattern (d : Detector α) (instants : List (Option Int)) :
    Except Fault (Option (Pattern α)) := do
  let gaps : List α := Cadence.gaps instants
  if gaps.isEmpty then return none
  let mean := RecurringPayments.mean gaps
  let confidence := Cadence.confidence mean (deviation gaps)
  match ← d.classify mean with
  | none => return none
  | some frequency =>
    match instants.getLast?.join, Cadence.roundHalfUp? mean with
    | some last, some days =>
      match Date.ofDays? (Int.fdiv last microsPerDay) with
      | some lastDay =>
        match lastDay.addDays? days with
        | some next =>
          return some {
            frequency
            interval := 1
            nextDate := .day next
            confidence
            dayOfWeek := if isWeekAnchored frequency then some lastDay.weekday else none
            dayOfMonth := if isMonthAnchored frequency then some lastDay.day else none }
        | none => throw .outsideCalendar
      | none => throw .outsideCalendar
    | _, _ => return none

/-- The root of the mean squared relative distance from the average, zero if that is zero. -/
def relativeVariation (amounts : List α) (average : α) : α :=
  if Scalar.same average Scalar.zero then Scalar.zero
  else
    Scalar.sqrt (mean (amounts.map fun a =>
      Scalar.square (Scalar.div (Scalar.sub a average) average)))

def buildGroup (d : Detector α) (key : String) (charges : List (Charge α)) :
    Except Fault (Option (RecurringGroup α)) := do
  match ← d.inferPattern (charges.map (·.instant)) with
  | none => return none
  | some pattern =>
    if ← (Value.real pattern.confidence).isAtMost d.minConfidence then return none
    let amounts := charges.map fun c => Scalar.abs c.amount
    let averageAmount := mean amounts
    let variance := relativeVariation amounts averageAmount
    let isSteady ← (Value.real variance).isBelow d.maxVariance
    let isSubscription ←
      if isSteady then d.minSubscriptionConfidence.isBelow (.real pattern.confidence)
      else pure false
    return some {
      merchantKey := key
      category := (charges.head?.map (·.transaction.category)).getD .null
      pattern
      members := charges.map fun c => Member.ofTransaction c.transaction
      averageAmount
      variance
      isSubscription }

def groupOf (d : Detector α) (key : String) (charges : List (Charge α)) :
    Except Fault (Option (RecurringGroup α)) := do
  if ← (Value.int charges.length).isBelow d.minOccurrences then return none
  d.buildGroup key (charges.mergeSort Charge.isNoLater)

def isNoLessSure (g h : RecurringGroup α) : Bool :=
  !Scalar.lt g.pattern.confidence h.pattern.confidence

def detect (d : Detector α) (ts : List (Transaction α)) :
    Except Fault (List (RecurringGroup α)) := do
  if ts.isEmpty then return []
  let charges ← Charge.ofTransactions ts
  let groups ← (gatherByMerchant charges).filterMapM fun p => d.groupOf p.1 p.2
  return groups.mergeSort isNoLessSure

def matchesGroup (d : Detector α) (t : Transaction α) (g : RecurringGroup α) :
    Except Fault Bool := do
  if MerchantKey.ofValue t.merchant != g.merchantKey then return false
  let amount ← (← t.amount.magnitude).scalar
  d.similarAmounts amount g.averageAmount

end Detector

def findGroupIndex? (id : Value α) (groups : List (RecurringGroup α)) : Option Nat :=
  groups.findIdx? fun g => g.members.any fun m => m.id.same id

end RecurringPayments
