/-!
Decimal digits of binary numbers, in exact whole-number arithmetic: the fewest digits that read
back, rounding to a decimal grid, and the layout of digits as text.
-/
namespace RecurringPayments.Decimal

def roundDiv (num den : Nat) : Nat :=
  let q := num / den
  let r := num % den
  if 2 * r < den then q
  else if den < 2 * r then q + 1
  else q + q % 2

/-- The whole part of a power's fraction: `b ^ e` is `power b e` over `power b (-e)`. -/
def power (b : Nat) (e : Int) : Nat := Nat.pow b e.toNat

def ratio (m : Nat) (e : Int) : Nat × Nat :=
  (m * power 2 e, power 2 (-e))

def compareWithBinary (c : Nat) (g : Int) (m : Nat) (e : Int) : Ordering :=
  compare (c * power 10 g * power 2 (-e)) (m * power 2 e * power 10 (-g))

def digitsOf (n : Nat) : List Char := Nat.toDigits 10 n

/-- The number of digits that `m * 2 ^ e` has before its decimal point; zero or less counts
the zeros after the point. -/
def wholeDigits (m : Nat) (e : Int) : Int :=
  let (num, den) := ratio m e
  let guess : Int := (digitsOf num).length - (digitsOf den).length
  if compareWithBinary 1 guess m e == .gt then guess else guess + 1

def roundToGrid (m : Nat) (e : Int) (g : Int) : Nat :=
  let (num, den) := ratio m e
  roundDiv (num * power 10 (-g)) (den * power 10 g)

def floorToGrid (m : Nat) (e : Int) (g : Int) : Nat :=
  let (num, den) := ratio m e
  (num * power 10 (-g)) / (den * power 10 g)

/-- A binary number with the decimals that round to it: those between `low * 2 ^ (exponent - 2)`
and `high * 2 ^ (exponent - 2)`, ends included when `closed`. -/
structure Target where
  mantissa : Nat
  exponent : Int
  low : Nat
  high : Nat
  closed : Bool

def Target.holds (t : Target) (c : Nat) (g : Int) : Bool :=
  let below := compareWithBinary c g t.low (t.exponent - 2)
  let above := compareWithBinary c g t.high (t.exponent - 2)
  (below == .gt || (t.closed && below == .eq)) && (above == .lt || (t.closed && above == .eq))

def Target.onGrid? (t : Target) (g : Int) : Option Nat :=
  let low := floorToGrid t.mantissa t.exponent g
  let nearest :=
    match compareWithBinary (2 * low + 1) g (2 * t.mantissa) t.exponent with
    | .gt => low
    | .lt => low + 1
    | .eq => low + low % 2
  let other := if nearest == low then low + 1 else low
  if t.holds nearest g then some nearest
  else if t.holds other g then some other
  else none

def Target.search (t : Target) (g : Int) : (fuel : Nat) → Nat × Int
  | 0 => (roundToGrid t.mantissa t.exponent g, g)
  | fuel + 1 =>
    match t.onGrid? g with
    | some c => (c, g)
    | none => t.search (g - 1) fuel

/-- The fewest digits that read back, as digits and a power of ten. Seventeen always do. -/
def Target.shortest (t : Target) : Nat × Int :=
  t.search (wholeDigits t.mantissa t.exponent - 1) 17

def dropTrailingZeros : List Char → List Char :=
  fun ds => (ds.reverse.dropWhile (· == '0')).reverse

def zeros (n : Nat) : List Char := List.replicate n '0'

/-- How digits become text: positional from `10 ^ low` up to but not including `10 ^ high`, with
an exponent of at least two digits elsewhere. -/
structure Layout where
  low : Int
  high : Int
  wholeMark : List Char
  deriving Repr

def exponentText (e : Int) : List Char :=
  let ds := digitsOf e.natAbs
  (if e < 0 then '-' else '+') :: (if ds.length < 2 then '0' :: ds else ds)

def Layout.write (l : Layout) (digits : Nat) (g : Int) : List Char :=
  let all := digitsOf digits
  let ds := dropTrailingZeros all
  let point : Int := all.length + g
  if l.low < point && point ≤ l.high then
    if point ≤ 0 then '0' :: '.' :: (zeros (-point).toNat ++ ds)
    else if ds.length ≤ point then
      ds ++ zeros (point.toNat - ds.length) ++ l.wholeMark
    else ds.take point.toNat ++ '.' :: ds.drop point.toNat
  else
    match ds with
    | [] => ['0']
    | [d] => d :: 'e' :: exponentText (point - 1)
    | d :: rest => d :: '.' :: (rest ++ 'e' :: exponentText (point - 1))

def groupThousands (ds : List Char) : List Char :=
  let rec go : List Char → Nat → List Char
    | [], _ => []
    | c :: cs, n => if n % 3 == 0 && n != 0 then ',' :: c :: go cs (n + 1) else c :: go cs (n + 1)
  (go ds.reverse 0).reverse

def fixedText (places : Nat) (magnitude : Nat) : List Char :=
  let unit := power 10 places
  let fraction := digitsOf (magnitude % unit)
  groupThousands (digitsOf (magnitude / unit)) ++
    (if places == 0 then [] else '.' :: (zeros (places - fraction.length) ++ fraction))

end RecurringPayments.Decimal
