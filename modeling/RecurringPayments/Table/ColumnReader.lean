import RecurringPayments.Table.Basic

/-!
Reading a column of cells. How its cells are to be read is settled for the column as a whole, as
the layout of its dates is; after that each cell is read by itself.
-/
namespace RecurringPayments

variable {ε ε' α β : Type} [Scalar α]

/-- A reader of columns. It may refuse a column as a whole, with what it raises. -/
structure ColumnReader (ε α β : Type) [Scalar α] where
  Manner : Type
  manner : Column α → Except ε Manner
  cell : Manner → Value α → Option β
  cell_gap : ∀ m v, Column.isGap v = true → cell m v = none

namespace ColumnReader

def read (r : ColumnReader ε α β) (cells : Column α) : Except ε (List (Option β)) := do
  return cells.map (r.cell (← r.manner cells))

def mapError (r : ColumnReader ε α β) (f : ε → ε') : ColumnReader ε' α β :=
  { r with manner := fun cells => (r.manner cells).mapError f }

end ColumnReader

end RecurringPayments
