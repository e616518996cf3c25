import RecurringPayments.Calendar.Moment
import RecurringPayments.Text.Blank

/-!
Layouts of written dates. A layout says in which order the parts of a date stand and what
separates them; reading a text by a layout gives its date or nothing. In a column of dates the
first one chooses the layout for all.
-/
namespace RecurringPayments.Calendar

inductive DateOrder where
  | yearMonthDay (separator : Char)
  | compact
  | monthDayYear
  | dayMonthYear
  | yearMonth
  | year
  deriving DecidableEq, Repr

inductive Clock where
  | none
  | minutes (separator : Char)
  | seconds (separator : Char)
  | fraction (separator : Char)
  deriving DecidableEq, Repr

structure Layout where
  order : DateOrder
  clock : Clock
  zoned : Bool
  deriving DecidableEq, Repr

/-- A reader gives every way to read the front of a text, the longest first. -/
abbrev Readings (β : Type) := List (β × List Char)

def digitValue? (c : Char) : Option Nat :=
  if c.isDigit then some (c.toNat - 48) else Option.none

def fixedNumber : (count : Nat) → (read : Nat) → List Char → Readings Nat
  | 0, read, s => [(read, s)]
  | _ + 1, _, [] => []
  | count + 1, read, c :: cs =>
    match digitValue? c with
    | some d => fixedNumber count (read * 10 + d) cs
    | Option.none => []

def shortNumber (low high : Nat) (s : List Char) : Readings Nat :=
  (fixedNumber 2 0 s ++ fixedNumber 1 0 s).filter fun r => low ≤ r.1 && r.1 ≤ high

def mark (c : Char) : List Char → Readings Unit
  | d :: cs => if c == d then [((), cs)] else []
  | [] => []

def Readings.andThen {β γ : Type} (first : Readings β) (next : β → List Char → Readings γ) :
    Readings γ :=
  first.flatMap fun r => next r.1 r.2

def readYear (s : List Char) : Readings Nat := fixedNumber 4 0 s
def readMonth (s : List Char) : Readings Nat := shortNumber 1 12 s
def readDay (s : List Char) : Readings Nat := shortNumber 1 31 s

def DateOrder.read (o : DateOrder) (s : List Char) : Readings (Nat × Nat × Nat) :=
  match o with
  | .yearMonthDay c =>
    (readYear s).andThen fun y s => (mark c s).andThen fun _ s =>
      (readMonth s).andThen fun m s => (mark c s).andThen fun _ s =>
        (readDay s).andThen fun d s => [((y, m, d), s)]
  | .compact =>
    (readYear s).andThen fun y s => (readMonth s).andThen fun m s =>
      (readDay s).andThen fun d s => [((y, m, d), s)]
  | .monthDayYear =>
    (readMonth s).andThen fun m s => (mark '/' s).andThen fun _ s =>
      (readDay s).andThen fun d s => (mark '/' s).andThen fun _ s =>
        (readYear s).andThen fun y s => [((y, m, d), s)]
  | .dayMonthYear =>
    (readDay s).andThen fun d s => (mark '/' s).andThen fun _ s =>
      (readMonth s).andThen fun m s => (mark '/' s).andThen fun _ s =>
        (readYear s).andThen fun y s => [((y, m, d), s)]
  | .yearMonth =>
    (readYear s).andThen fun y s => (mark '-' s).andThen fun _ s =>
      (readMonth s).andThen fun m s => [((y, m, 1), s)]
  | .year => (readYear s).andThen fun y s => [((y, 1, 1), s)]

def readMinutes (s : List Char) : Readings Nat :=
  (shortNumber 0 23 s).andThen fun h s => (mark ':' s).andThen fun _ s =>
    (shortNumber 0 59 s).andThen fun m s => [((h * 60 + m) * 60000000, s)]

def readSeconds (s : List Char) : Readings Nat :=
  (readMinutes s).andThen fun t s => (mark ':' s).andThen fun _ s =>
    (shortNumber 0 59 s).andThen fun sec s => [(t + sec * 1000000, s)]

def readFraction (s : List Char) : Readings Nat :=
  (readSeconds s).andThen fun t s => (mark '.' s).andThen fun _ s =>
    let ds := s.takeWhile Char.isDigit
    if ds.isEmpty || ds.length > 9 then []
    else
      let six := (ds ++ List.replicate 6 '0').take 6
      (fixedNumber 6 0 six).map fun r => (t + r.1, s.dropWhile Char.isDigit)

def Clock.read (c : Clock) (s : List Char) : Readings Nat :=
  match c with
  | .none => [(0, s)]
  | .minutes sep => (mark sep s).andThen fun _ s => readMinutes s
  | .seconds sep => (mark sep s).andThen fun _ s => readSeconds s
  | .fraction sep => (mark sep s).andThen fun _ s => readFraction s

def twoDigitValue? (a b : Char) : Option Nat := do
  return (← digitValue? a) * 10 + (← digitValue? b)

def zone? : List Char → Option Int
  | ['Z'] => some 0
  | sign :: ds => do
    let minutes ←
      match ds with
      | [a, b] => do return (← twoDigitValue? a b) * 60
      | [a, b, c, d] | [a, b, ':', c, d] => do
        return (← twoDigitValue? a b) * 60 + (← twoDigitValue? c d)
      | _ => none
    if sign == '+' then some minutes else if sign == '-' then some (-(minutes : Int)) else none
  | [] => none

def readZone (zoned : Bool) (s : List Char) : Readings (Option Int) :=
  if zoned then (zone? s).toList.map fun z => (some z, [])
  else if s.isEmpty then [(none, s)]
  else []

def Layout.read? (l : Layout) (s : List Char) : Option Moment :=
  let whole := (l.order.read s).andThen fun ymd s => (l.clock.read s).andThen fun t s =>
    (readZone l.zoned s).andThen fun zone s => [((ymd, t, zone), s)]
  match whole with
  | (((y, m, d), t, zone), _) :: _ => (Date.ofCivil? y m d).map fun date => ⟨date, t, zone⟩
  | [] => none

def dateOrders : List DateOrder :=
  [.yearMonthDay '-', .yearMonthDay '/', .compact, .monthDayYear, .dayMonthYear, .yearMonth, .year]

def clocks : List Clock :=
  [.none, .minutes ' ', .seconds ' ', .fraction ' ', .minutes 'T', .seconds 'T', .fraction 'T']

def layouts : List Layout :=
  dateOrders.flatMap fun o => clocks.flatMap fun c =>
    if c == .none then [⟨o, c, false⟩] else [⟨o, c, false⟩, ⟨o, c, true⟩]

/-- Compact dates are recognised only in full length. -/
def Layout.fits (l : Layout) (s : List Char) : Bool :=
  (l.order != .compact || (s.take 8).length == 8 && (s.take 8).all Char.isDigit) &&
    (l.read? s).isSome

def Layout.of? (s : List Char) : Option Layout := layouts.find? (·.fits s)

def readMoment? (s : List Char) : Option Moment :=
  (Layout.of? s).bind (·.read? s)

end RecurringPayments.Calendar
