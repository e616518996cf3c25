import RecurringPayments.Transaction.Basic
import RecurringPayments.Table.ColumnReader
import RecurringPayments.Calendar.Layout
import RecurringPayments.Number.Reading

/-!
Transactions from a table. The required columns have to be there, then every date has to be
readable, then every amount; each of these is asked of all rows before the next one is.
-/
namespace RecurringPayments

variable {ε γ α : Type} [Scalar α]

def requiredColumns : List String :=
  ["id", "date", "amount", "merchant", "category", "account", "type", "status"]

def optionalColumns : List String := ["tags", "goal_id", "is_recurring", "recurring_id", "notes"]

/-! ### Dates -/

namespace DateColumn

def missingMarks : List String := ["", "NaT", "nat", "NAT", "nan", "NaN", "NAN"]

def text? : Value α → Option String
  | .text s => if missingMarks.contains s then none else some s
  | _ => none

/-- The first cell that is not missing; dates do not choose a layout. -/
def firstText? (cells : Column α) : Option String :=
  match cells.find? fun v => !Column.isGap v && (v.isText → (text? v).isSome) with
  | some v => text? v
  | none => none

def nanosPerDay : Int := 86400000000000

/-- A number counts nanoseconds since the first day of 1970. -/
def ofNanos? (n : Int) : Option Date := Date.ofDays? (719162 + Int.fdiv n nanosPerDay)

def ofCell? (layout : Option Calendar.Layout) (v : Value α) : Option Moment :=
  match v with
  | .date d => some ⟨d, 0, none⟩
  | .moment m => some m
  | .int n =>
    match layout with
    | some l => l.read? (Value.intText n).toList
    | none => (ofNanos? n).map fun d => ⟨d, 0, none⟩
  | .real x =>
    if Scalar.isUndefined x then none
    else
      match layout with
      | some l => l.read? (Scalar.text x).toList
      | none => ((Scalar.floor? x).bind ofNanos?).map fun d => ⟨d, 0, none⟩
  | .text s =>
    match layout with
    | some l => l.read? s.toList
    | none => Calendar.readMoment? s.toList
  | _ => none

/-- The first text chooses the layout of all; if it has none of the known ones, each cell is read
by itself. -/
def layout? (cells : Column α) : Option Calendar.Layout :=
  (firstText? cells).bind fun s => Calendar.Layout.of? s.toList

def reader : ColumnReader Fault α Date where
  Manner := Option Calendar.Layout
  manner cells :=
    let layout := layout? cells
    if Moment.shareZone (cells.filterMap (ofCell? layout)) then .ok layout else .error .mixedZones
  cell layout v := (ofCell? layout v).map (·.date)
  cell_gap layout v gap := by
    cases v with
    | null => rfl
    | real x => exact congrArg (Option.map _) (if_pos gap)
    | _ => cases gap

end DateColumn

/-! ### Other cells -/

namespace AmountColumn

def whole? : Value α → Option Int
  | .text s => (Number.Amount.ofText? s.toList).bind (·.whole?)
  | v => v.whole?

def figure? : Value α → Option α
  | .bool b => some (Scalar.ofInt (if b then 1 else 0))
  | .int n => some (Scalar.ofInt n)
  | .real x => if Scalar.isUndefined x then none else some x
  | .text s => (Number.Amount.ofText? s.toList).map (·.figure)
  | _ => none

def isWorded (cells : Column α) : Bool := (cells.mapM whole?).any Number.fitWord

/-- Zeros in a machine word have no sign. -/
def reader : ColumnReader Fault α α where
  Manner := Bool
  manner cells := .ok (isWorded cells)
  cell worded v :=
    match worded, whole? v with
    | true, some n => some (Scalar.ofInt n)
    | _, _ => figure? v
  cell_gap worded v gap := by
    cases v with
    | null => cases worded <;> rfl
    | real x => cases worded <;> exact if_pos gap
    | _ => cases gap

end AmountColumn

structure TransactionReaders (ε α : Type) [Scalar α] where
  dates : ColumnReader ε α Date
  amounts : ColumnReader ε α α

def TransactionReaders.standard : TransactionReaders Fault α :=
  ⟨DateColumn.reader, AmountColumn.reader⟩

def presentCell (v : Value α) : Option (Value α) := if Column.isGap v then none else some v

def tagSeparator : Char := '|'

def tagsOfText (s : List Char) : List (List Char) :=
  ((Text.splitAt tagSeparator s).map Text.trim).filter fun piece => !piece.isEmpty

def tagsOfCell (v : Value α) : List (Value α) :=
  match presentCell v with
  | none => []
  | some (.list items) => items.map fun item => .text item.plain
  | some v => (tagsOfText v.plain.toList).map fun piece => .text (String.ofList piece)

def flagTexts : List String := ["true", "1", "yes"]

def flagOfCell (v : Value α) : Bool :=
  match presentCell v with
  | none => false
  | some (.text s) => flagTexts.contains (String.ofList (Text.lower (Text.trim s.toList)))
  | some v => !v.isEmpty

def optionalText (v : Value α) : Value α :=
  match presentCell v with
  | none => .null
  | some v => .text v.plain

def optionalValue (v : Value α) : Value α := (presentCell v).getD .null

/-! ### Rows -/

namespace Table

def cells (t : Table α) (name : String) : Column α := (t.column? name).getD []

def cell (t : Table α) (name : String) (row : Nat) : Value α := (t.cells name).getD row .null

def textCell (t : Table α) (name : String) (row : Nat) : Value α := .text (t.cell name row).plain

def missingColumns (t : Table α) : List String :=
  requiredColumns.filter fun name => (t.column? name).isNone

def idsWithout {β : Type} (t : Table α) (readings : List (Option β)) : List String :=
  ((t.cells "id").zip readings).filterMap fun p =>
    if p.2.isNone then some p.1.quoted else none

def transaction (t : Table α) (row : Nat) (date : Date) (amount : α) : Transaction α where
  id := t.textCell "id" row
  date := .day date
  amount := .real amount
  merchant := t.textCell "merchant" row
  category := t.textCell "category" row
  account := t.textCell "account" row
  type := t.textCell "type" row
  status := t.textCell "status" row
  tags := tagsOfCell (t.cell "tags" row)
  goalId := optionalText (t.cell "goal_id" row)
  isRecurring := .bool (flagOfCell (t.cell "is_recurring" row))
  recurringId := optionalText (t.cell "recurring_id" row)
  notes := optionalValue (t.cell "notes" row)

def transactionsBy (r : TransactionReaders ε α) (t : Table α) :
    Except (Failure ε) (List (Transaction α)) := do
  let missing := t.missingColumns
  if !missing.isEmpty then throw (.own (.input (.missingColumns (missing.map Value.quotedText))))
  if t.rowCount == 0 then return []
  let dates ← (r.dates.read (t.cells "date")).mapError .raised
  let badDates := t.idsWithout dates
  if !badDates.isEmpty then throw (.own (.input (.unreadableDates badDates)))
  let amounts ← (r.amounts.read (t.cells "amount")).mapError .raised
  let badAmounts := t.idsWithout amounts
  if !badAmounts.isEmpty then throw (.own (.input (.unreadableAmounts badAmounts)))
  return ((dates.filterMap id).zip (amounts.filterMap id)).mapIdx fun row p =>
    t.transaction row p.1 p.2

def transactions (t : Table α) : Except Fault (List (Transaction α)) :=
  (t.transactionsBy .standard).mapError Failure.fault

end Table

def loadTransactionsBy (table : γ → Except ε (Table α)) (r : TransactionReaders ε α)
    (path : String) (content : Option γ) : Except (Failure ε) (List (Transaction α)) :=
  match content with
  | none => .error (.own (.missingFile .transactions path))
  | some content => do (← (table content).mapError .raised).transactionsBy r

def loadTransactions (path : String) (content : Option (List Char)) :
    Except Fault (List (Transaction α)) :=
  (loadTransactionsBy Table.ofCsv .standard path content).mapError Failure.fault

end RecurringPayments
