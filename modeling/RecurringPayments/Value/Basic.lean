import RecurringPayments.Number.Scalar
import RecurringPayments.Calendar.Moment

/-!
Values whose kind is known only when they are read: the cells of a table, the entries of a
configuration or of a rule record. Mappings keep the order of their entries.
-/
namespace RecurringPayments

inductive Value (α : Type) where
  | null
  | bool (b : Bool)
  | int (n : Int)
  | real (x : α)
  | text (s : String)
  | date (d : Date)
  | moment (m : Moment)
  | list (items : List (Value α))
  | mapping (entries : List (Value α × Value α))

namespace Value

variable {α : Type}

instance : Inhabited (Value α) := ⟨.null⟩

def kindName : Value α → String
  | .null => "NoneType"
  | .bool _ => "bool"
  | .int _ => "int"
  | .real _ => "float"
  | .text _ => "str"
  | .date _ => "date"
  | .moment _ => "datetime"
  | .list _ => "list"
  | .mapping _ => "dict"

def isText : Value α → Bool
  | .text _ => true
  | _ => false

def isNumber : Value α → Bool
  | .int _ | .real _ => true
  | _ => false

def isHashable : Value α → Bool
  | .list _ | .mapping _ => false
  | _ => true

/-- Reads as empty: nothing, false, zero, or without content. -/
def isEmpty [Scalar α] : Value α → Bool
  | .null => true
  | .bool b => !b
  | .int n => n == 0
  | .real x => Scalar.orderInt x 0 == some .eq
  | .text s => s.isEmpty
  | .list items => items.isEmpty
  | .mapping entries => entries.isEmpty
  | .date _ | .moment _ => false

def whole? : Value α → Option Int
  | .bool b => some (if b then 1 else 0)
  | .int n => some n
  | _ => none

/-- Numeric comparison, truth values counted; `none` for other kinds or undefined numbers. -/
def order? [Scalar α] (v w : Value α) : Option Ordering :=
  match v.whole?, w.whole?, v, w with
  | some m, some n, _, _ => some (compare m n)
  | some m, none, _, .real y => (Scalar.orderInt y m).map Ordering.swap
  | none, some n, .real x, _ => Scalar.orderInt x n
  | none, none, .real x, .real y => Scalar.order x y
  | _, _, _, _ => none

def sameMoment (m n : Moment) : Bool :=
  match m.zone, n.zone with
  | none, none => m.instant == n.instant
  | some a, some b => m.instant - a * 60000000 == n.instant - b * 60000000
  | _, _ => false

mutual

/-- Equality of values: numbers by size whatever their kind, mappings whatever their order. -/
def same [Scalar α] : Value α → Value α → Bool
  | .null, .null => true
  | .bool b, w => order? (.bool b) w == some .eq
  | .int n, w => order? (.int n) w == some .eq
  | .real x, w => order? (.real x) w == some .eq
  | .text s, .text t => s == t
  | .date d, .date e => d == e
  | .moment m, .moment n => sameMoment m n
  | .list items, .list others => sameItems items others
  | .mapping entries, .mapping others =>
    entries.length == others.length && sameEntries entries others
  | _, _ => false

def sameItems [Scalar α] : List (Value α) → List (Value α) → Bool
  | [], [] => true
  | v :: vs, w :: ws => same v w && sameItems vs ws
  | _, _ => false

def sameEntries [Scalar α] : List (Value α × Value α) → List (Value α × Value α) → Bool
  | [], _ => true
  | (k, v) :: rest, others =>
    others.any (fun p => same k p.1 && same v p.2) && sameEntries rest others

end

def entry? (key : String) : List (Value α × Value α) → Option (Value α)
  | [] => none
  | (.text k, v) :: rest => if k == key then some v else entry? key rest
  | _ :: rest => entry? key rest

def lookup? [Scalar α] (key : Value α) (entries : List (Value α × Value α)) : Option (Value α) :=
  (entries.find? fun p => same p.1 key).map (·.2)

/-- Puts an entry in: in place if the key is there, at the end otherwise. -/
def put [Scalar α] (key value : Value α) :
    List (Value α × Value α) → List (Value α × Value α)
  | [] => [(key, value)]
  | (k, v) :: rest => if same k key then (k, value) :: rest else (k, v) :: put key value rest

end Value

end RecurringPayments
