/-!
The arithmetic in which every figure of the library is computed: gaps, confidences, amounts and
costs are numbers of a type with these operations. The program runs in binary floating point; a
law about a figure may read the same definitions in an exact field. No law is assumed here.
-/
namespace RecurringPayments

class Scalar (α : Type) where
  ofInt : Int → α
  inRange : Int → Bool
  /-- The number with this sign and magnitude `digits * 10 ^ exponent`. -/
  ofDecimal : (negative : Bool) → (digits : Nat) → (exponent : Int) → α
  infinite : (negative : Bool) → α
  undefined : α
  add : α → α → α
  sub : α → α → α
  mul : α → α → α
  div : α → α → α
  abs : α → α
  sqrt : α → α
  isNegative : α → Bool
  /-- `none` when one of the two is undefined. -/
  order : α → α → Option Ordering
  orderInt : α → Int → Option Ordering
  floor? : α → Option Int
  /-- The magnitude counted in units of `10 ^ (-places)`, rounded to the nearest, a half to the
  even neighbour; `none` if it is not finite. -/
  magnitudeAt : (places : Nat) → α → Option Nat
  text : α → String

namespace Scalar

variable {α : Type} [Scalar α]

def zero : α := ofInt 0

def one : α := ofInt 1

def lt (x y : α) : Bool := order x y == some .lt

def le (x y : α) : Bool :=
  match order x y with
  | some .lt | some .eq => true
  | _ => false

def same (x y : α) : Bool := order x y == some .eq

def isUndefined (x : α) : Bool := (order x x).isNone

/-- The larger of the two; the first unless the second is strictly above it. -/
def atLeast (x y : α) : α := if lt x y then y else x

def atMost (x y : α) : α := if lt y x then y else x

def square (x : α) : α := mul x x

def roundTo (places : Nat) (x : α) : α :=
  match magnitudeAt places x with
  | some m => ofDecimal (isNegative x) m (-places)
  | none => x

end Scalar

end RecurringPayments
