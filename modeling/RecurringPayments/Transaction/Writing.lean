import RecurringPayments.Transaction.Reading
import RecurringPayments.Csv.Writer

/-!
Transactions as a table of text: tags in one cell, and amounts in one notation throughout.
-/
namespace RecurringPayments

variable {α : Type} [Scalar α]

/-- The written form of a cell; nothing, and an undefined figure, are written as empty cells. -/
def writtenCell (v : Value α) : Csv.Cell := if Column.isGap v then [] else v.plain.toList

def writeColumns (columns : List (String × Column α)) (rowCount : Nat) : String :=
  let unified := columns.map fun c => Column.unify c.2
  let rows := (List.range rowCount).map fun i =>
    unified.map fun cells => writtenCell (cells.getD i .null)
  String.ofList (Csv.writeRows (columns.map (·.1.toList) :: rows))

def writeRecords {ρ : Type} (columns : List (String × (ρ → Value α))) (records : List ρ) : String :=
  writeColumns (columns.map fun c => (c.1, records.map c.2)) records.length

def When.written (w : When) : Except Fault String :=
  match w.shortText? with
  | some s => .ok s
  | none => .error .lacksProperty

namespace Transaction

def dateCell (t : Transaction α) : Except Fault (Value α) := do
  return .text (← t.date.written)

def tagText : Value α → Except Fault (List Char)
  | .text s => .ok s.toList
  | _ => .error .kindMismatch

def joinTags (tags : List (List Char)) : List Char := Text.joinWith [tagSeparator] tags

def tagsCell (t : Transaction α) : Except Fault (Value α) := do
  return .text (String.ofList (joinTags (← t.tags.mapM tagText)))

def cells (t : Transaction α) : Except Fault (List (Value α)) := do
  return [t.id, ← t.dateCell, t.amount, t.merchant, t.category, t.account, t.type, t.status,
    ← t.tagsCell, t.goalId, t.isRecurring, t.recurringId, t.notes]

end Transaction

def writeTransactions (ts : List (Transaction α)) : Except Fault String := do
  let rows ← ts.mapM Transaction.cells
  let names := requiredColumns ++ optionalColumns
  let columns := names.mapIdx fun i name => (name, rows.map fun row => row.getD i .null)
  return writeColumns columns rows.length

end RecurringPayments
