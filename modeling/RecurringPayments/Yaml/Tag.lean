import RecurringPayments.Yaml.Cursor

/-!
Tags: what a scalar of the document stands for, decided by its form when it is written plain.
-/
namespace RecurringPayments.Yaml

inductive Tag where
  | null
  | bool
  | int
  | float
  | timestamp
  | text
  | sequence
  | mapping
  | merge
  | value
  | other
  deriving DecidableEq, Repr

/-- Bytes, sets and ordered mappings are kinds that `Value` lacks, and count as unknown. -/
def Tag.ofName (name : String) : Tag :=
  match name with
  | "tag:yaml.org,2002:null" => .null
  | "tag:yaml.org,2002:bool" => .bool
  | "tag:yaml.org,2002:int" => .int
  | "tag:yaml.org,2002:float" => .float
  | "tag:yaml.org,2002:timestamp" => .timestamp
  | "tag:yaml.org,2002:str" => .text
  | "tag:yaml.org,2002:seq" => .sequence
  | "tag:yaml.org,2002:map" => .mapping
  | "tag:yaml.org,2002:merge" => .merge
  | "tag:yaml.org,2002:value" => .value
  | _ => .other

/-! ### Forms of plain scalars -/

/-- A line feed at the end of a text, unless it is all of the text, is not looked at. -/
def dropLastFeed (s : List Char) : List Char :=
  if s.getLast? == some '\n' && 1 < s.length then s.dropLast else s

def isDigitOrBar (c : Char) : Bool := c.isDigit || c == '_'

def dropSign : List Char → List Char
  | c :: cs => if c == '-' || c == '+' then cs else c :: cs
  | [] => []

def nullForms : List String := ["", "~", "null", "Null", "NULL"]

def trueForms : List String :=
  ["yes", "Yes", "YES", "true", "True", "TRUE", "on", "On", "ON"]

def falseForms : List String :=
  ["no", "No", "NO", "false", "False", "FALSE", "off", "Off", "OFF"]

def dropSixties : List Char → (fuel : Nat) → List Char
  | s, 0 => s
  | s, fuel + 1 =>
    match s with
    | ':' :: a :: b :: rest =>
      if '0' ≤ a && a ≤ '5' && b.isDigit then dropSixties rest fuel
      else if a.isDigit then dropSixties (b :: rest) fuel
      else s
    | ':' :: a :: rest => if a.isDigit then dropSixties rest fuel else s
    | _ => s

def sixtiesTail? (first : Char → Bool) (s : List Char) : Option (List Char) :=
  match s with
  | c :: cs =>
    let rest := cs.dropWhile isDigitOrBar
    let tail := dropSixties rest rest.length
    if first c && tail.length < rest.length then some tail else none
  | [] => none

def isIntForm (s : List Char) : Bool :=
  let t := dropSign s
  match t with
  | '0' :: 'b' :: ds => !ds.isEmpty && ds.all fun c => c == '0' || c == '1' || c == '_'
  | '0' :: 'x' :: ds =>
    !ds.isEmpty && ds.all fun c =>
      c.isDigit || ('a' ≤ c && c ≤ 'f') || ('A' ≤ c && c ≤ 'F') || c == '_'
  | ['0'] => true
  | '0' :: ds => ds.all fun c => ('0' ≤ c && c ≤ '7') || c == '_'
  | c :: ds =>
    c.isDigit && (ds.all isDigitOrBar || sixtiesTail? (fun c => c.isDigit && c != '0') t == some [])
  | [] => false

def isExponentOrNone : List Char → Bool
  | [] => true
  | e :: sign :: ds =>
    (e == 'e' || e == 'E') && (sign == '+' || sign == '-') && !ds.isEmpty && ds.all Char.isDigit
  | [_] => false

def infinityForms : List String := [".inf", ".Inf", ".INF"]

def undefinedForms : List String := [".nan", ".NaN", ".NAN"]

def isFloatForm (s : List Char) : Bool :=
  let t := dropSign s
  let positional :=
    match t with
    | c :: cs =>
      c.isDigit &&
        (match cs.dropWhile isDigitOrBar with
          | '.' :: rest => isExponentOrNone (rest.dropWhile isDigitOrBar)
          | _ => false)
    | [] => false
  let fraction :=
    match s with
    | '.' :: c :: cs => c.isDigit && isExponentOrNone (cs.dropWhile isDigitOrBar)
    | _ => false
  let sixties :=
    match sixtiesTail? Char.isDigit t with
    | some ('.' :: rest) => rest.all isDigitOrBar
    | _ => false
  positional || fraction || sixties || infinityForms.contains (String.ofList t) ||
    undefinedForms.contains (String.ofList s)

structure StampParts where
  year : Nat
  month : Nat
  day : Nat
  clock : Option (Nat × Nat × Nat × Nat)
  zone : Option Int

def numberOf (ds : List Char) : Nat := ds.foldl (fun n d => n * 10 + (d.toNat - 48)) 0

def digits? (least most : Nat) (s : List Char) : Option (Nat × List Char) :=
  let ds := (s.takeWhile Char.isDigit).take most
  if least ≤ ds.length then some (numberOf ds, s.drop ds.length) else none

def expect? (c : Char) : List Char → Option (List Char)
  | d :: rest => if c == d then some rest else none
  | [] => none

def isSpaceOrTab (c : Char) : Bool := c == ' ' || c == '\t'

def zone? (s : List Char) : Option (Option Int) :=
  match s.dropWhile isSpaceOrTab with
  | [] => if s.isEmpty then some none else none
  | ['Z'] => some (some 0)
  | sign :: rest =>
    if sign == '+' || sign == '-' then do
      let (h, rest) ← digits? 1 2 rest
      let m ← match rest with
        | [] => some 0
        | ':' :: ds => do
          let (m, rest) ← digits? 2 2 ds
          if rest.isEmpty then some m else none
        | _ => none
      let minutes : Int := h * 60 + m
      some (some (if sign == '-' then -minutes else minutes))
    else none

def clock? (s : List Char) : Option ((Nat × Nat × Nat × Nat) × Option Int) := do
  let (h, s) ← digits? 1 2 s
  let s ← expect? ':' s
  let (m, s) ← digits? 2 2 s
  let s ← expect? ':' s
  let (sec, s) ← digits? 2 2 s
  let (micro, s) := match s with
    | '.' :: rest =>
      let ds := rest.takeWhile Char.isDigit
      (numberOf ((ds ++ ['0', '0', '0', '0', '0', '0']).take 6), rest.dropWhile Char.isDigit)
    | _ => (0, s)
  let zone ← zone? s
  return ((h, m, sec, micro), zone)

def stampParts? (s : List Char) : Option StampParts := do
  let (year, rest) ← digits? 4 4 s
  let rest ← expect? '-' rest
  let (month, rest) ← digits? 1 2 rest
  let rest ← expect? '-' rest
  let (day, rest) ← digits? 1 2 rest
  match rest with
  | [] => some ⟨year, month, day, none, none⟩
  | c :: cs =>
    let start :=
      if c == 'T' || c == 't' then some cs
      else if isSpaceOrTab c then some (cs.dropWhile isSpaceOrTab)
      else none
    let (clock, zone) ← clock? (← start)
    return ⟨year, month, day, some clock, zone⟩

/-- A date alone has the form of one only in full length. -/
def isStampForm (s : List Char) : Bool :=
  (stampParts? s).any fun p => p.clock.isSome || s.length == 10

def Tag.ofPlain (s : List Char) : Tag :=
  let text := String.ofList s
  if trueForms.contains text || falseForms.contains text then .bool
  else if isFloatForm s then .float
  else if isIntForm s then .int
  else if text == "<<" then .merge
  else if nullForms.contains text then .null
  else if isStampForm s then .timestamp
  else if text == "=" then .value
  else .text

end RecurringPayments.Yaml
