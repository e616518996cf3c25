import RecurringPayments.Csv.Reader

/-!
Writing rows of cells as comma-separated text. Quotes are put only around cells that need them;
a row of one empty cell is written as a pair of quotes, so that it is not a blank line.
-/
namespace RecurringPayments.Csv

def needsQuotes (cell : Cell) : Bool := cell.any fun c => c == ',' || c == '"' || isLineEnd c

def doubleQuotes (cell : Cell) : Cell := cell.flatMap fun c => if c == '"' then ['"', '"'] else [c]

def writeCell (cell : Cell) : List Char :=
  if needsQuotes cell then '"' :: (doubleQuotes cell ++ ['"']) else cell

def writeRow : Row → List Char
  | [] => []
  | [cell] => writeCell cell
  | cell :: cells => writeCell cell ++ ',' :: writeRow cells

def writeRows (rows : List Row) : List Char :=
  rows.flatMap fun row => (if row == [[]] then ['"', '"'] else writeRow row) ++ ['\n']

end RecurringPayments.Csv
