import RecurringPayments.Number.Scalar
import RecurringPayments.Number.Decimal

/-!
Binary floating point as the arithmetic of a run: 53 binary digits, every exact question
(comparison with a whole number, floor, decimal text) answered on the decoded bits.
-/
namespace RecurringPayments

inductive Binary64 where
  | undefined
  | infinite (negative : Bool)
  /-- The number `± mantissa * 2 ^ exponent`. -/
  | finite (negative : Bool) (mantissa : Nat) (exponent : Int)
  deriving Repr

namespace Binary64

/-- The 64 bits hold a fraction below this, over it the eleven digits of the exponent and on top
the sign. -/
def fractionUnit : Nat := Nat.pow 2 52

def signUnit : Nat := Nat.pow 2 63

def ofFloat (x : Float) : Binary64 :=
  let bits := x.toBits.toNat
  let negative := decide (signUnit ≤ bits)
  let field : Nat := bits / fractionUnit % 2048
  let fraction := bits % fractionUnit
  if field == 2047 then
    if fraction == 0 then .infinite negative else .undefined
  else if field == 0 then .finite negative fraction (-1074)
  else .finite negative (fractionUnit + fraction) ((field : Int) - 1075)

def signed (negative : Bool) (n : Nat) : Int := if negative then -n else n

def orderInt : Binary64 → Int → Option Ordering
  | .undefined, _ => none
  | .infinite negative, _ => some (if negative then .lt else .gt)
  | .finite negative m e, n =>
    some (compare (signed negative (m * Decimal.power 2 e)) (n * Decimal.power 2 (-e)))

def floor? : Binary64 → Option Int
  | .finite negative m e =>
    some (Int.fdiv (signed negative (m * Decimal.power 2 e)) (Decimal.power 2 (-e)))
  | _ => none

def magnitudeAt (places : Nat) : Binary64 → Option Nat
  | .finite _ m e => some (Decimal.roundToGrid m e (-places))
  | _ => none

/-- The decimals that round to a number reach half way to its neighbours; below a power of two
the lower neighbour is only half as far. -/
def target (m : Nat) (e : Int) : Decimal.Target where
  mantissa := m
  exponent := e
  low := 4 * m - (if m == fractionUnit && e > -1074 then 1 else 2)
  high := 4 * m + 2
  closed := m % 2 == 0

def layout : Decimal.Layout := ⟨-4, 16, ['.', '0']⟩

def write : Binary64 → List Char
  | .undefined => ['n', 'a', 'n']
  | .infinite negative => (if negative then ['-'] else []) ++ ['i', 'n', 'f']
  | .finite negative m e =>
    (if negative then ['-'] else []) ++
      (if m == 0 then ['0', '.', '0']
       else
        let (digits, g) := (target m e).shortest
        layout.write digits g)

def significant (digits : Nat) : Binary64 → Option (Bool × Nat × Int)
  | .finite negative m e =>
    if m == 0 then some (negative, 0, 0)
    else
      let g := Decimal.wholeDigits m e - digits
      some (negative, Decimal.roundToGrid m e g, g)
  | _ => none

end Binary64

/-- Powers of ten beyond those of the largest and the smallest number need no arithmetic. -/
def floatOfDecimal (negative : Bool) (digits : Nat) (exponent : Int) : Float :=
  let point : Int := (Decimal.digitsOf digits).length + exponent
  let x : Float :=
    if digits == 0 || point < -400 then 0.0
    else if 400 < point then 1.0 / 0.0
    else Float.ofScientific digits (decide (exponent < 0)) exponent.natAbs
  if negative then -x else x

def floatOfInt (n : Int) : Float := floatOfDecimal (decide (n < 0)) n.natAbs 0

def roundSignificant (digits : Nat) (x : Float) : Float :=
  match (Binary64.ofFloat x).significant digits with
  | some (negative, m, e) => floatOfDecimal negative m e
  | none => x

instance : Scalar Float where
  ofInt := floatOfInt
  inRange n := !(floatOfInt n).isInf
  ofDecimal := floatOfDecimal
  infinite negative := if negative then -(1.0 / 0.0) else 1.0 / 0.0
  undefined := 0.0 / 0.0
  add := Float.add
  sub := Float.sub
  mul := Float.mul
  div := Float.div
  abs := Float.abs
  sqrt := Float.sqrt
  isNegative x := decide (Binary64.signUnit ≤ x.toBits.toNat)
  order x y :=
    if x < y then some .lt
    else if x == y then some .eq
    else if y < x then some .gt
    else none
  orderInt x n := (Binary64.ofFloat x).orderInt n
  floor? x := (Binary64.ofFloat x).floor?
  magnitudeAt places x := (Binary64.ofFloat x).magnitudeAt places
  text x := String.ofList (Binary64.ofFloat x).write

end RecurringPayments
