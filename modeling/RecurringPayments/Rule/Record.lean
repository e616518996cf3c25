import RecurringPayments.Rule.Basic
import RecurringPayments.Value.Text
import RecurringPayments.Text.Lower
import RecurringPayments.Yaml.Document

/-!
Rules from records, the mappings of a rule file. Only the shape of a record is checked here: lists
where lists belong, mappings where mappings belong.
-/
namespace RecurringPayments

variable {ε γ α : Type} [Scalar α]

abbrev Record (α : Type) := List (Value α × Value α)

namespace Record

def asMapping (place : RulePlace) : Value α → Except Fault (Record α)
  | .mapping entries => .ok entries
  | v => .error (.input (.wrongShape place .aMapping v.kindName))

def asList (place : RulePlace) : Value α → Except Fault (List (Value α))
  | .null => .ok []
  | .list items => .ok items
  | v => .error (.input (.wrongShape place .aList v.kindName))

def get (r : Record α) (key : String) (default : Value α) : Value α :=
  (Value.entry? key r).getD default

def text (r : Record α) (key : String) (default : String) : String :=
  (r.get key (.text default)).plain

def condition (r : Record α) : Condition α :=
  let value := r.get "value" .null
  { kind := ConditionKind.ofValue value
    field := r.get "field" (.text "")
    operator := r.get "operator" (.text "")
    value
    id := .text (r.text "id" "") }

def actionValue (v : Value α) : Value α :=
  match v with
  | .null => .text ""
  | v => .text v.plain

def action (r : Record α) : Action α where
  type := r.get "type" (.text "")
  value := actionValue (r.get "value" (.text ""))
  id := .text (r.text "id" "")

def items {β : Type} (place : Nat → RulePlace) (read : Record α → β) :
    (n : Nat) → List (Value α) → Except Fault (List β)
  | _, [] => .ok []
  | n, v :: rest => do
    let item ← asMapping (place n) v
    return read item :: (← items place read (n + 1) rest)

/-- The name of a rule; an empty one of any kind is an empty text. -/
def name (r : Record α) : Value α :=
  let v := r.get "name" (.text "")
  if v.isEmpty then .text "" else v

def eitherText (r : Record α) (key other : String) : String :=
  match Value.entry? key r with
  | some v => v.plain
  | none => r.text other ""

def rule (n : Nat) (v : Value α) : Except Fault (Rule α) := do
  let r ← asMapping (.rule n) v
  let conditions ←
    items (.condition n) condition 1 (← asList (.conditions n) (r.get "conditions" .null))
  let actions ← items (.action n) action 1 (← asList (.actions n) (r.get "actions" .null))
  return {
    id := r.text "id" ("rule-" ++ Value.numberText n)
    name := r.name
    enabled := !(r.get "enabled" (.bool true)).isEmpty
    logic := .text (String.ofList (Text.lower (r.text "logic" "and").toList))
    conditions
    actions := some actions
    description := r.get "description" .null
    createdAt := .text (r.eitherText "created_at" "createdAt")
    updatedAt := .text (r.eitherText "updated_at" "updatedAt") }

def rulesFrom : (n : Nat) → List (Value α) → Except Fault (List (Rule α))
  | _, [] => .ok []
  | n, v :: rest => do
    let r ← rule n v
    return r :: (← rulesFrom (n + 1) rest)

end Record

def Rule.ofRecords (records : Value α) : Except Fault (List (Rule α)) := do
  Record.rulesFrom 1 (← Record.asList .rules records)

def recordsOf (document : Value α) : Value α :=
  match document with
  | .mapping entries => (Value.entry? "rules" entries).getD .null
  | v => v

/-- What a text holds, or nothing if it has not the form of a document. A scalar that is not what
its tag says is no error of form. -/
def Yaml.readDocument (text : List Char) : Except Fault (Option (Value α)) :=
  match Yaml.read text with
  | .ok document => .ok (some document)
  | .error (.scalar cause) => .error (.malformedDocument (.scalar cause))
  | .error _ => .ok none

/-- The rules of a file; `none` stands for a file that does not exist. -/
def loadRulesBy (document : γ → Except ε (Option (Value α))) (path : String) (content : Option γ) :
    Except (Failure ε) (List (Rule α)) :=
  match content with
  | none => .error (.own (.missingFile .rules path))
  | some content => do
    match ← (document content).mapError .raised with
    | some document => (Rule.ofRecords (recordsOf document)).mapError .own
    | none => throw (.own (.input (.unreadableRules path)))

def loadRules (path : String) (content : Option (List Char)) : Except Fault (List (Rule α)) :=
  (loadRulesBy Yaml.readDocument path content).mapError Failure.fault

end RecurringPayments
