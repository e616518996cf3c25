import RecurringPayments.Number.Scalar
import RecurringPayments.Text.Blank
import RecurringPayments.Text.Digit
import RecurringPayments.Text.Lower

/-!
Reading written numbers: the decimal notation shared by all readers, the free form that a text
standing for a number may have, and the form of an amount in a table.
-/
namespace RecurringPayments.Number

def natOf (ds : List Char) : Nat := ds.foldl (fun n d => n * 10 + (d.toNat - 48)) 0

def splitSign : List Char → Bool × List Char
  | '-' :: cs => (true, cs)
  | '+' :: cs => (false, cs)
  | cs => (false, cs)

/-- An unsigned number: digits with an optional point, at least one of them, then an optional
exponent. Its digits and its power of ten. -/
def decimal? (s : List Char) : Option (Nat × Int) := do
  let whole := s.takeWhile Char.isDigit
  let rest := s.dropWhile Char.isDigit
  let (fraction, rest) := match rest with
    | '.' :: cs => (cs.takeWhile Char.isDigit, cs.dropWhile Char.isDigit)
    | _ => ([], rest)
  if whole.isEmpty && fraction.isEmpty then none
  let digits := natOf (whole ++ fraction)
  let places : Int := -fraction.length
  match rest with
  | [] => return (digits, places)
  | e :: cs =>
    if e != 'e' && e != 'E' then none
    let (negative, ds) := splitSign cs
    if ds.isEmpty || !ds.all Char.isDigit then none
    let exponent : Int := natOf ds
    return (digits, places + (if negative then -exponent else exponent))

def dropBars? : (afterDigit : Bool) → List Char → Option (List Char)
  | _, [] => some []
  | afterDigit, c :: cs =>
    if c == '_' then
      if afterDigit && cs.head?.any Char.isDigit then dropBars? false cs else none
    else (dropBars? c.isDigit cs).map (c :: ·)

variable {α : Type} [Scalar α]

def ofText? (s : List Char) : Option α := do
  let (negative, body) := splitSign ((Text.trim s).map Text.commonDigit)
  let word := String.ofList (Text.lower body)
  if word == "inf" || word == "infinity" then return Scalar.infinite negative
  if word == "nan" then return Scalar.undefined
  let (digits, exponent) ← decimal? (← dropBars? false body)
  return Scalar.ofDecimal negative digits exponent

/-! ### Amounts -/

def isAmountBlank (c : Char) : Bool := c == ' ' || (9 ≤ c.toNat && c.toNat ≤ 13)

inductive Amount where
  | whole (negative : Bool) (digits : Nat)
  | decimal (negative : Bool) (digits : Nat) (exponent : Int)
  | infinite (negative : Bool)
  deriving DecidableEq, Repr

namespace Amount

/-- Blanks may stand around digits, but not around a word. -/
def ofText? (s : List Char) : Option Amount := do
  let bare := ((s.dropWhile isAmountBlank).reverse.dropWhile isAmountBlank).reverse
  let (negative, body) := splitSign bare
  let word := String.ofList (Text.lower body)
  if word == "inf" || word == "infinity" then
    if bare.length == s.length then return .infinite negative else none
  let (digits, exponent) ← decimal? body
  return if body.all Char.isDigit then .whole negative digits else .decimal negative digits exponent

def whole? : Amount → Option Int
  | whole negative digits => some (if negative then -digits else digits)
  | _ => none

def figure : Amount → α
  | whole negative digits => Scalar.ofDecimal negative digits 0
  | decimal negative digits exponent => Scalar.ofDecimal negative digits exponent
  | infinite negative => Scalar.infinite negative

end Amount

/-- Whether whole numbers fit one machine word together, signed or unsigned. -/
def fitWord (ns : List Int) : Bool :=
  ns.all (fun n => -UInt64.size ≤ 2 * n && 2 * n < UInt64.size) ||
    ns.all (fun n => 0 ≤ n && n < UInt64.size)

end RecurringPayments.Number
