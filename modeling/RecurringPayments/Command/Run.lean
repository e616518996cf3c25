import RecurringPayments.Command.Library
import RecurringPayments.Command.Options
import RecurringPayments.Command.Sample
import RecurringPayments.Report.Console

/-!
One run of the program: both files are loaded, the report is made, its tables are saved one after
the other, and it is shown. A missing or malformed file ends the run before anything is saved.
What a machine limits (memory, the depth of a recursion, the digits of a number's text) has no
limit here.
-/
namespace RecurringPayments.Command

inductive Place where
  | bundled (name : String)
  | path (name : String)
  deriving DecidableEq, Repr

def Place.name : Place → String
  | bundled name => name
  | path name => name

inductive Ending where
  | finished (console : String) (files : List (String × String))
  | missing (cause : Fault)
  | malformed (cause : InputFault)

namespace Ending

def code : Ending → Nat
  | finished _ _ => 0
  | missing _ => 1
  | malformed _ => 2

end Ending

variable {ε γ α : Type} [Scalar α]

/-- The file an option names; an empty name counts as none. -/
def chosen? (option : Option String) : Option Place :=
  match option with
  | some name => if name.isEmpty then none else some (.path name)
  | none => none

def inputPlace (o : Options) : Place := (chosen? o.input).getD (.bundled Sample.transactionsName)

/-- The rule file that the configuration names counts from the program's own place. -/
def rulesPlace (config : Settings α) (o : Options) : Except Fault Place :=
  match chosen? o.rules with
  | some place => .ok place
  | none => do
    match ← Settings.entryOf (← config.get "rule_engine") "default_rules_path" with
    | .text name => return .bundled name
    | _ => throw .kindMismatch

def savedFiles (r : Report α) : List (String × String) := [
  ("recurring_groups", r.groupsText),
  ("upcoming_bills", r.billsText),
  ("categorized_transactions", r.transactionsText)]

def reportOn (config : Settings α) (today : Date) (ts : List (Transaction α))
    (rs : List (Rule α)) : Except Fault (Report α) := do
  (← Analyst.ofSettings config).report ts rs (.day today)

def saveAll (encode : String → Except ε γ) : List (String × String) → List (String × γ) × Option ε
  | [] => ([], none)
  | (name, text) :: rest =>
    match encode text with
    | .error cause => ([], some cause)
    | .ok content =>
      let later := saveAll encode rest
      ((name, content) :: later.1, later.2)

/-- What a run leaves behind. It breaks off where it has no ending. -/
structure RunResult (ε γ : Type) where
  saved : List (String × γ)
  ending : Except (Failure ε) Ending

end RecurringPayments.Command

namespace RecurringPayments.Library

open Command

variable {ε γ α : Type} [Scalar α] (l : Library ε γ α)

def load (files : Place → Option γ) (input rules : Place) :
    Except (Failure ε) (List (Transaction α) × List (Rule α)) := do
  let ts ← loadTransactionsBy l.table l.toTransactionReaders input.name (files input)
  let rs ← loadRulesBy l.document rules.name (files rules)
  return (ts, rs)

def prepare (config : Settings α) (files : Place → Option γ) (clock : Date) (o : Options) :
    Except (Failure ε) Ending := do
  let rules ← (rulesPlace config o).mapError .own
  match l.load files (inputPlace o) rules with
  | .error (.own (.input cause)) => return .malformed cause
  | .error (.own (.missingFile role path)) => return .missing (.missingFile role path)
  | .error cause => throw cause
  | .ok (ts, rs) =>
    let report ← (reportOn config (o.today.getD clock) ts rs).mapError .own
    return .finished report.consoleText (savedFiles report)

def conclude (ending : Ending) : RunResult ε γ :=
  match ending with
  | .finished console files =>
    match saveAll l.encode files with
    | (saved, some cause) => ⟨saved, .error (.raised cause)⟩
    | (saved, none) => ⟨saved, ((l.print console).mapError .raised).map fun _ => ending⟩
  | _ => ⟨[], .ok ending⟩

def run (config : Settings α) (files : Place → Option γ) (clock : Date) (o : Options) :
    RunResult ε γ :=
  match l.prepare config files clock o with
  | .error cause => ⟨[], .error cause⟩
  | .ok ending => l.conclude ending

end RecurringPayments.Library

namespace RecurringPayments.Command

def run {α : Type} [Scalar α] (config : Settings α) (files : Place → Option (List Char))
    (clock : Date) (o : Options) : Except Fault Ending :=
  (Library.text.run config files clock o).ending.mapError Failure.fault

end RecurringPayments.Command
