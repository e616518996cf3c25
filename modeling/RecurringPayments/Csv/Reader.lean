import RecurringPayments.Fault

/-!
Comma-separated text as rows of cells. A cell in quotes may hold commas, line ends and doubled
quotes; lines that are blank are no rows.
-/
namespace RecurringPayments.Csv

abbrev Cell := List Char

abbrev Row := List Cell

inductive Place where
  | recordStart
  | blankLine
  | cellStart
  | inCell
  | inQuotes
  /-- Behind a quote inside quotes: it ends the cell unless another one follows. -/
  | afterQuote
  deriving DecidableEq, Repr

def isBlankLine : List Char → Bool
  | [] => true
  | c :: cs => c == '\n' || c == '\r' || ((c == ' ' || c == '\t') && isBlankLine cs)

def isLineEnd (c : Char) : Bool := c == '\n' || c == '\r'

def readFrom (place : Place) (cell : Cell) (record : Row) : List Char → Except Fault (List Row)
  | [] =>
    match place with
    | .recordStart | .blankLine => .ok []
    | .inQuotes => .error .malformedTable
    | .cellStart | .inCell | .afterQuote => .ok [(cell.reverse :: record).reverse]
  | c :: cs =>
    let endRecord (_ : Unit) : Except Fault (List Row) := do
      let rows ← readFrom (if c == '\r' && cs.head? == some '\n' then .blankLine else .recordStart)
        [] [] cs
      return (cell.reverse :: record).reverse :: rows
    let startCell (_ : Unit) : Except Fault (List Row) :=
      if isLineEnd c then endRecord ()
      else if c == '"' then readFrom .inQuotes [] record cs
      else if c == ',' then readFrom .cellStart [] ([] :: record) cs
      else readFrom .inCell [c] record cs
    let skip (_ : Unit) : Except Fault (List Row) :=
      readFrom (if c == '\n' || (c == '\r' && cs.head? != some '\n') then .recordStart
        else .blankLine) [] [] cs
    match place with
    | .recordStart => if isBlankLine (c :: cs) then skip () else startCell ()
    | .blankLine => skip ()
    | .cellStart => startCell ()
    | .inCell =>
      if isLineEnd c then endRecord ()
      else if c == ',' then readFrom .cellStart [] (cell.reverse :: record) cs
      else readFrom .inCell (c :: cell) record cs
    | .inQuotes =>
      if c == '"' then readFrom .afterQuote cell record cs
      else readFrom .inQuotes (c :: cell) record cs
    | .afterQuote =>
      if isLineEnd c then endRecord ()
      else if c == '"' then readFrom .inQuotes ('"' :: cell) record cs
      else if c == ',' then readFrom .cellStart [] (cell.reverse :: record) cs
      else readFrom .inCell (c :: cell) record cs

def readRows (s : List Char) : Except Fault (List Row) :=
  readFrom .recordStart [] [] (if s.head? == some '\uFEFF' then s.drop 1 else s)

def padRow (width : Nat) (row : Row) : Row := row ++ List.replicate (width - row.length) []

/-- Rows after the first one of the body: filled up to the width of the row before, which they
must not exceed. -/
def fitRows : (width : Nat) → List Row → Except Fault (List Row)
  | _, [] => .ok []
  | width, row :: rows => do
    if width < row.length then throw .malformedTable
    return padRow width row :: (← fitRows width rows)

/-- The header, and the rows of the body at one width. The first row may exceed the header; then
all rows begin with as many cells that belong to no column, and these are dropped. -/
def readTable (s : List Char) : Except Fault (Row × List Row) := do
  match ← readRows s with
  | [] => throw .emptyTable
  | [header] => return (header, [])
  | header :: first :: rows =>
    let first := padRow header.length first
    let rows ← fitRows first.length rows
    return (header, (first :: rows).map (·.drop (first.length - header.length)))

end RecurringPayments.Csv
