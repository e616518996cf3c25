import RecurringPayments.Number.Scalar

/-!
Two orders of summation. `laneSum` adds eight interleaved lanes and then their totals, and
halves long lists; `compensatedSum` carries the rounding error of each step into the next. In an
exact field both are the plain sum.
-/
namespace RecurringPayments

open Scalar

variable {α : Type} [Scalar α]

def plainSum (xs : List α) : α := xs.foldl add zero

def addRows : List α → List α → List α
  | [], ys => ys
  | xs, [] => xs
  | x :: xs, y :: ys => add x y :: addRows xs ys

/-- The sum of a list of 8 to 128 numbers: whole rows of eight column by column, then the eight
totals in pairs, then what was left of the last row. -/
def rowSum (xs : List α) : α :=
  let rec columns : List α → List α → Nat → List α × List α
    | totals, rest, 0 => (totals, rest)
    | totals, rest, rows + 1 => columns (addRows totals (rest.take 8)) (rest.drop 8) rows
  let (totals, rest) := columns (xs.take 8) (xs.drop 8) (xs.length / 8 - 1)
  let pairs := match totals with
    | [a, b, c, d, e, f, g, h] => add (add (add a b) (add c d)) (add (add e f) (add g h))
    | few => plainSum few
  rest.foldl add pairs

/-- Long lists are halved at a multiple of eight. -/
def laneSum (xs : List α) : α :=
  if xs.length < 8 then plainSum xs
  else if xs.length ≤ 128 then rowSum xs
  else
    let half := xs.length / 2 / 8 * 8
    if 0 < half ∧ half < xs.length then add (laneSum (xs.take half)) (laneSum (xs.drop half))
    else rowSum xs
termination_by xs.length
decreasing_by
  all_goals simp only [List.length_take, List.length_drop]; omega

/-- The total of a list and the error still owed to it. An undefined error is forgotten. -/
def compensatedStep (s : α × α) (x : α) : α × α :=
  let y := sub x s.2
  let t := add s.1 y
  let owed := sub (sub t s.1) y
  (t, if isUndefined owed then zero else owed)

def compensatedSum (xs : List α) : α := (xs.foldl compensatedStep (zero, zero)).1

def mean (xs : List α) : α := div (laneSum xs) (ofInt xs.length)

def deviation (xs : List α) : α :=
  let m := mean xs
  sqrt (mean (xs.map fun x => square (sub x m)))

end RecurringPayments
