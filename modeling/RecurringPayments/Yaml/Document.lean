import RecurringPayments.Yaml.Node
import RecurringPayments.Value.Basic
import RecurringPayments.Number.Reading

/-!
The value of a document. Scalars are read by their tags; a merge key brings in the entries of
other mappings before the mapping's own; of several entries under one key the last one counts.
Of several faults the outermost is reported.
-/
namespace RecurringPayments.Yaml

variable {α : Type} [Scalar α]

def removeBars (s : List Char) : List Char := s.filter (· != '_')

def numberInBase? (base : Nat) (ds : List Char) : Option Nat :=
  if ds.isEmpty then none
  else ds.foldlM (fun n d =>
      (hexValue? d).bind fun v => if v < base then some (n * base + v) else none) 0

/-- Longer numbers to base ten are not read. -/
def mostDigits : Nat := 4300

def baseMark? : (base : Nat) → Option Char
  | 2 => some 'b'
  | 8 => some 'o'
  | 16 => some 'x'
  | _ => none

def dropBaseMark (base : Nat) : List Char → List Char
  | '0' :: c :: ds => if baseMark? base == some c.toLower then ds else '0' :: c :: ds
  | ds => ds

def wholeInBase? (base : Nat) (s : List Char) : Option Int :=
  let (negative, ds) := Number.splitSign ((Text.trim s).map Text.commonDigit)
  if base == 10 && mostDigits < ds.length then none
  else
    (numberInBase? base (dropBaseMark base ds)).map fun n => if negative then -(n : Int) else n

def sixtiesValue (parts : List Int) : Int := parts.foldl (fun n p => n * 60 + p) 0

def notANumber {β : Type} (written : List Char) : Except DocumentFault β :=
  .error (.scalar (if written.isEmpty then .noDigits else .outOfRange))

def intValue (s : List Char) : Except DocumentFault Int :=
  let (negative, t) := Number.splitSign (removeBars s)
  let magnitude? :=
    match t with
    | ['0'] => some 0
    | '0' :: 'b' :: ds => wholeInBase? 2 ds
    | '0' :: 'x' :: ds => wholeInBase? 16 ds
    | '0' :: _ => wholeInBase? 8 t
    | _ =>
      if t.contains ':' then
        ((Text.splitAt ':' t).mapM (wholeInBase? 10)).map sixtiesValue
      else wholeInBase? 10 t
  match magnitude? with
  | some n => .ok (if negative then -n else n)
  | none => notANumber t

def sixtiesScalar (parts : List α) : α :=
  (parts.reverse.foldl
    (fun (s : α × Int) p => (Scalar.add s.1 (Scalar.mul p (Scalar.ofInt s.2)), s.2 * 60))
    (Scalar.zero, 1)).1

def floatValue (s : List Char) : Except DocumentFault α :=
  let bare := removeBars (Text.lower s)
  let (negative, t) := Number.splitSign bare
  let signed (x : α) : α := if negative then Scalar.mul (Scalar.ofInt (-1)) x else x
  if String.ofList t == ".inf" then .ok (Scalar.infinite negative)
  else if String.ofList t == ".nan" then .ok Scalar.undefined
  else
    let magnitude? : Option α :=
      if t.contains ':' then ((Text.splitAt ':' t).mapM Number.ofText?).map sixtiesScalar
      else Number.ofText? t
    match magnitude? with
    | some x => .ok (signed x)
    | none => notANumber bare

def stampValue (s : List Char) : Except DocumentFault (Value α) :=
  match stampParts? (dropLastFeed s) with
  | none => .error (.scalar .noDateForm)
  | some p =>
    match Date.ofCivil? p.year p.month p.day with
    | none => .error (.scalar .outOfRange)
    | some d =>
      match p.clock with
      | none => .ok (.date d)
      | some (h, m, sec, micro) =>
        if h < 24 && m < 60 && sec < 60 && p.zone.all (·.natAbs < 1440) then
          .ok (.moment ⟨d, ((h * 60 + m) * 60 + sec) * 1000000 + micro, p.zone⟩)
        else .error (.scalar .outOfRange)

def boolValue (s : List Char) : Except DocumentFault Bool :=
  match String.ofList (Text.lower s) with
  | "yes" | "true" | "on" => .ok true
  | "no" | "false" | "off" => .ok false
  | _ => .error (.scalar .noTruthValue)

def scalarValue (tag : Tag) (s : List Char) : Except DocumentFault (Value α) :=
  match tag with
  | .null => .ok .null
  | .bool => (boolValue s).map .bool
  | .int => (intValue s).map .int
  | .float => (floatValue s).map .real
  | .timestamp => stampValue s
  | .text => .ok (.text (String.ofList s))
  | _ => .error .content

/-! ### Faults by depth -/

structure PlacedFault where
  depth : Nat
  cause : DocumentFault

abbrev Built (β : Type) := Except PlacedFault β

namespace Built

variable {β γ δ : Type}

def ofExcept (x : Except DocumentFault β) : Built β := x.mapError fun cause => ⟨0, cause⟩

def misfit : Built β := .error ⟨0, .content⟩

def inside (x : Built β) : Built β := x.mapError fun f => { f with depth := f.depth + 1 }

/-- Joins two parts of a collection. Of two faults the outer one counts, of two equally deep the
first. -/
def join (f : β → γ → δ) : Built β → Built γ → Built δ
  | .ok x, .ok y => .ok (f x y)
  | .error e, .error e' => .error (if e'.depth < e.depth then e' else e)
  | .error e, .ok _ => .error e
  | .ok _, .error e => .error e

end Built

/-! ### Collections -/

def Node.tag : Node → Tag
  | .scalar tag _ | .sequence tag _ | .mapping tag _ => tag

/-- Only scalars are keys. An equals sign stands for itself. -/
def keyOf : Node → Built (Value α)
  | .scalar .value s => .ok (.text (String.ofList s))
  | .scalar tag s => .ofExcept (scalarValue tag s)
  | _ => .misfit

/-- A node of another kind than its tag says is found out only when it is looked into. -/
def misplaced (tag : Tag) : Built (Value α) :=
  if tag == .sequence || tag == .mapping then .inside .misfit else .misfit

abbrev Entries (α : Type) := List (Value α × Value α)

/-- The entries that merge keys bring into a mapping, unless one of these keys has a value that
cannot be merged, and the mapping's own. -/
structure Content (α : Type) where
  mergeable : Bool
  merged : Built (Entries α)
  own : Built (Entries α)

namespace Content

def none : Content α := ⟨true, .ok [], .ok []⟩

def all (c : Content α) : Built (Entries α) := .join (· ++ ·) c.merged c.own

/-- Of several entries under one key the last one counts, at the place of the first. -/
def value (c : Content α) : Built (Value α) :=
  if c.mergeable then
    c.all.map fun entries => .mapping (entries.foldl (fun es e => Value.put e.1 e.2 es) [])
  else .misfit

def merge (brought later : Content α) : Content α :=
  { later with
    mergeable := brought.mergeable && later.mergeable
    merged := .join (· ++ ·) brought.all later.merged }

end Content

mutual

def valueOf : Node → Built (Value α)
  | .scalar tag s =>
    if tag == .sequence || tag == .mapping then misplaced tag else .ofExcept (scalarValue tag s)
  | .sequence tag items =>
    if tag == .sequence then .inside ((valuesOf items).map .list) else misplaced tag
  | .mapping tag entries =>
    if tag == .mapping then .inside (contentOf entries).value else misplaced tag

def valuesOf : List Node → Built (List (Value α))
  | [] => .ok []
  | n :: rest => .join (· :: ·) (valueOf n) (valuesOf rest)

def contentOf : List (Node × Node) → Content α
  | [] => .none
  | (k, v) :: rest =>
    let later := contentOf rest
    if k.tag == .merge then (mergedContent v).merge later
    else { later with own := .join (· :: ·) (.join Prod.mk (keyOf k) (valueOf v)) later.own }

/-- What a merge key stands for: a mapping, or a list of them, of which the first one prevails. -/
def mergedContent : Node → Content α
  | .mapping _ entries => contentOf entries
  | .sequence _ items => mergedItems items
  | .scalar _ _ => { Content.none with mergeable := false }

def mergedItems : List Node → Content α
  | [] => .none
  | .mapping _ entries :: rest =>
    let first := contentOf entries
    let later := mergedItems rest
    ⟨first.mergeable && later.mergeable, .join (· ++ ·) later.all first.all, .ok []⟩
  | _ :: _ => { Content.none with mergeable := false }

end

def read (text : List Char) : Except DocumentFault (Value α) := do
  match ← Node.ofText (unifyLineEnds text) with
  | some n => (valueOf n).mapError (·.cause)
  | none => return .null

end RecurringPayments.Yaml
