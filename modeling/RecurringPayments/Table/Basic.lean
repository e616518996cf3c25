import RecurringPayments.Value.Basic
import RecurringPayments.Csv.Reader

/-!
Tables: named columns of cells. The cells of one column agree in kind where they can: whole
numbers become figures beside figures, and a gap among numbers or texts becomes an undefined
figure.
-/
namespace RecurringPayments

variable {α : Type}

abbrev Column (α : Type) := List (Value α)

structure Table (α : Type) where
  columns : List (String × Column α)

namespace Column

def isNull : Value α → Bool
  | .null => true
  | _ => false

def isWhole : Value α → Bool
  | .int _ => true
  | _ => false

variable [Scalar α]

def isGap : Value α → Bool
  | .null => true
  | .real x => Scalar.isUndefined x
  | _ => false

def toFigure : Value α → Value α
  | .int n => .real (Scalar.ofInt n)
  | .null => .real Scalar.undefined
  | v => v

def fillGap : Value α → Value α
  | .null => .real Scalar.undefined
  | v => v

/-- Makes the cells agree. A column without any value stays as it is. -/
def unify (cells : Column α) : Column α :=
  let present := cells.filter fun v => !isNull v
  if present.isEmpty then cells
  else if present.all Value.isNumber then
    if present.length == cells.length && present.all isWhole then cells else cells.map toFigure
  else if (cells.filter fun v => !isGap v).all Value.isText then cells.map fillGap
  else cells

end Column

namespace Table

def column? (t : Table α) (name : String) : Option (Column α) := t.columns.lookup name

def rowCount (t : Table α) : Nat := (t.columns.map (·.2.length)).foldl max 0

variable [Scalar α]

def ofColumns (columns : List (String × Column α)) : Table α :=
  ⟨columns.map fun c => (c.1, Column.unify c.2)⟩

def missingMarks : List String :=
  ["", "#N/A", "#N/A N/A", "#NA", "-1.#IND", "-1.#QNAN", "-NaN", "-nan", "1.#IND", "1.#QNAN",
    "<NA>", "N/A", "NA", "NULL", "NaN", "None", "n/a", "nan", "null"]

def ofCell (cell : Csv.Cell) : Value α :=
  let text := String.ofList cell
  if missingMarks.contains text then .real Scalar.undefined else .text text

/-- Every cell is text or missing; of columns with one name the first counts. -/
def ofCsv (text : List Char) : Except Fault (Table α) := do
  let (header, rows) ← Csv.readTable text
  let columns := header.mapIdx fun i name =>
    (String.ofList name, rows.map fun row => ofCell (row.getD i []))
  return ⟨columns⟩

end Table

end RecurringPayments
