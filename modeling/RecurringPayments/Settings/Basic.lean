import RecurringPayments.Settings.Default
import RecurringPayments.Value.Text
import RecurringPayments.Yaml.Document

/-!
The configuration in force. A document that holds something stays in force until it is reset,
whatever is loaded afterwards; while none is, the default one is read on first use.
-/
namespace RecurringPayments

variable {α : Type} [Scalar α]

inductive ConfigSource where
  | standard
  | missing (path : String)
  | text (content : List Char)

/-- The document in force, an empty value while there is none. -/
structure Settings (α : Type) where
  document : Value α

namespace Settings

def none : Settings α := ⟨.mapping []⟩

/-- A document that holds nothing counts as an empty mapping. -/
def ofDocument (v : Value α) : Settings α := if v.isEmpty then none else ⟨v⟩

def load (s : Settings α) (source : ConfigSource) : Except Fault (Settings α) :=
  if !s.document.isEmpty then .ok s
  else
    match source with
    | .standard => .ok ⟨defaultDocument⟩
    | .missing path => .error (.missingFile .configuration path)
    | .text content =>
      match Yaml.read content with
      | .ok v => .ok (ofDocument v)
      | .error cause => .error (.malformedDocument cause)

def inForce (s : Settings α) : Settings α :=
  if s.document.isEmpty then ⟨defaultDocument⟩ else s

def blockOf (document : Value α) (name : String) : Except Fault (Value α) :=
  match document with
  | .mapping entries =>
    match Value.entry? name entries with
    | some v => .ok v
    | Option.none => .error (.missingBlock name (entries.map (·.1.quoted)))
  | .list items =>
    if items.any fun v => v.same (.text name) then .error .kindMismatch else .error .lacksProperty
  | .text s =>
    if Text.isInfix name.toList s.toList then .error .kindMismatch else .error .lacksProperty
  | _ => .error .kindMismatch

def get (s : Settings α) (name : String) : Except Fault (Value α) :=
  blockOf s.inForce.document name

def entryOf (b : Value α) (name : String) : Except Fault (Value α) :=
  match b with
  | .mapping entries =>
    match Value.entry? name entries with
    | some v => .ok v
    | Option.none => .error .missingKey
  | _ => .error .kindMismatch

def entriesOf : Value α → Except Fault (List (Value α × Value α))
  | .mapping entries => .ok entries
  | _ => .error .lacksProperty

end Settings

end RecurringPayments
