import RecurringPayments.Command.Run
import RecurringPayments.Proofs.Report.Completion
import RecurringPayments.Proofs.Transaction.Rows

/-!
How a run of the program ends, whatever its files hold and whatever library it calls on. It saves
all of its tables, or it names what is missing or malformed and saves nothing, or it breaks off. It
does so over what the library raises, at one of the calls that stand outside the handling of faults,
and else only over a payment outside the calendar. Limits of the machine are left out.
-/
namespace RecurringPayments

open Result

variable {ε γ α : Type} [Scalar α]

namespace Table

/-- A column that is refused as a whole, once everything before it has passed. -/
inductive IsRefused (r : TransactionReaders ε α) (t : Table α) : ε → Prop where
  | dates {cause : ε} (whole : t.missingColumns = []) (filled : t.rowCount ≠ 0)
    (refused : r.dates.read (t.cells "date") = .error cause) : IsRefused r t cause
  | amounts {cause : ε} {dates : List (Option Date)} (whole : t.missingColumns = [])
    (filled : t.rowCount ≠ 0) (read : r.dates.read (t.cells "date") = .ok dates)
    (dated : t.idsWithout dates = []) (refused : r.amounts.read (t.cells "amount") = .error cause) :
    IsRefused r t cause

variable {r : TransactionReaders ε α} {t : Table α}

theorem transactionsBy_of_isRefused {cause : ε} (refused : t.IsRefused r cause) :
    t.transactionsBy r = .error (.raised cause) := by
  cases refused with
  | dates whole filled refused =>
    rw [transactionsBy_of_filled (missingColumns_eq t ▸ whole) filled, refused]
    rfl
  | amounts whole filled read dated refused =>
    rw [transactionsBy_of_filled (missingColumns_eq t ▸ whole) filled, read, mapError_ok, ok_bind,
      if_neg (not_not.mpr dated), refused]
    rfl

end Table

/-! ### Rules -/

namespace Record

omit [Scalar α]

variable [Scalar α]

end Record

/-- What the readers of transactions raise over the content of a file. -/
inductive Library.RaisesOnTransactions (l : Library ε γ α) (content : γ) : ε → Prop where
  | table {cause : ε} (unread : l.table content = .error cause) :
      l.RaisesOnTransactions content cause
  | column {t : Table α} {cause : ε} (read : l.table content = .ok t)
      (refused : t.IsRefused l.toTransactionReaders cause) : l.RaisesOnTransactions content cause

theorem loadTransactionsBy_of_raises {l : Library ε γ α} {path : String} {content : γ} {cause : ε}
    (raises : l.RaisesOnTransactions content cause) :
    loadTransactionsBy l.table l.toTransactionReaders path (some content) =
      .error (.raised cause) := by
  rw [loadTransactionsBy]
  cases raises with
  | table unread => rw [unread, mapError_error, error_bind]
  | column read refused =>
    rw [read, mapError_ok, ok_bind, Table.transactionsBy_of_isRefused refused]

namespace Command

def rulesPlaceOf (o : Options) : Place :=
  (chosen? o.rules).getD (.bundled Settings.defaultRulesPath)

theorem rulesPlace_none (o : Options) :
    rulesPlace (Settings.none : Settings α) o = .ok (rulesPlaceOf o) := by
  rw [rulesPlace, rulesPlaceOf]
  cases chosen? o.rules <;> rfl

/-- Files are saved up to one whose text is refused. -/
structure SavesUpTo (encode : String → Except ε γ) (files : List (String × String))
    (saved : List (String × γ)) (cause : ε) : Prop where
  refused : ∃ done name text rest, files = done ++ (name, text) :: rest ∧
    encode text = .error cause ∧
    List.Forall₂ (fun f s => s.1 = f.1 ∧ encode f.2 = .ok s.2) done saved

theorem saveAll_of_savesUpTo {encode : String → Except ε γ} {files : List (String × String)}
    {saved : List (String × γ)} {cause : ε} (upTo : SavesUpTo encode files saved cause) :
    saveAll encode files = (saved, some cause) := by
  obtain ⟨done, name, text, rest, rfl, refused, each⟩ := upTo.refused
  induction each with
  | nil => rw [List.nil_append, saveAll, refused]
  | cons first _ ih =>
    obtain ⟨same, kept⟩ := first
    rw [List.cons_append, saveAll, kept, ih ⟨_, _, _, _, rfl, refused, ‹_›⟩, ← same]

section

variable (files : Place → Option γ) (input rules : Place)

/-- What a run breaks off over, with the files it has saved by then. -/
inductive BreaksOff (l : Library ε γ Float) (today : Date) :
    List (String × γ) → Failure ε → Prop where
  | transactions {content : γ} {cause : ε} (held : files input = some content)
    (raises : l.RaisesOnTransactions content cause) : BreaksOff l today [] (.raised cause)
  | rules {ts : List (Transaction Float)} {content : γ} {cause : ε}
    (loaded : loadTransactionsBy l.table l.toTransactionReaders input.name (files input) = .ok ts)
    (held : files rules = some content) (raises : l.document content = .error cause) :
    BreaksOff l today [] (.raised cause)
  | calendar {ts : List (Transaction Float)} {rs : List (Rule Float)}
    (loaded : l.load files input rules = .ok (ts, rs))
    (beyond : Detector.standard.detect ts = .error .outsideCalendar) :
    BreaksOff l today [] (.own .outsideCalendar)
  | saving {ts : List (Transaction Float)} {rs : List (Rule Float)} {report : Report Float}
    {saved : List (String × γ)} {cause : ε} (loaded : l.load files input rules = .ok (ts, rs))
    (made : Analyst.standard.report ts rs (.day today) = .ok report)
    (upTo : SavesUpTo l.encode (savedFiles report) saved cause) :
    BreaksOff l today saved (.raised cause)
  | showing {ts : List (Transaction Float)} {rs : List (Rule Float)} {report : Report Float}
    {saved : List (String × γ)} {cause : ε} (loaded : l.load files input rules = .ok (ts, rs))
    (made : Analyst.standard.report ts rs (.day today) = .ok report)
    (all : saveAll l.encode (savedFiles report) = (saved, none))
    (unshown : l.print report.consoleText = .error cause) :
    BreaksOff l today saved (.raised cause)

end

end Command

namespace Library

open Command

variable {l : Library ε γ α} {files : Place → Option γ} {clock : Date} {o : Options}

theorem load_of_transactions {input rules : Place} {failure : Failure ε}
    (failed : loadTransactionsBy l.table l.toTransactionReaders input.name (files input) =
      .error failure) : l.load files input rules = .error failure := by
  rw [load, failed, error_bind]

theorem load_of_rules {input rules : Place} {ts : List (Transaction α)} {failure : Failure ε}
    (loaded : loadTransactionsBy l.table l.toTransactionReaders input.name (files input) = .ok ts)
    (failed : loadRulesBy l.document rules.name (files rules) = .error failure) :
    l.load files input rules = .error failure := by
  rw [load, loaded, ok_bind, failed, error_bind]

theorem prepare_none : l.prepare Settings.none files clock o =
    match l.load files (inputPlace o) (rulesPlaceOf o) with
    | .error (.own (.input cause)) => .ok (.malformed cause)
    | .error (.own (.missingFile role path)) => .ok (.missing (.missingFile role path))
    | .error failure => .error failure
    | .ok (ts, rs) =>
      (reportOn Settings.none (o.today.getD clock) ts rs).mapError .own >>= fun report =>
        .ok (.finished report.consoleText (savedFiles report)) := by
  rw [prepare, rulesPlace_none]
  rfl

theorem run_of_raised {cause : ε}
    (failed : l.load files (inputPlace o) (rulesPlaceOf o) = .error (.raised cause)) :
    l.run Settings.none files clock o = ⟨[], .error (.raised cause)⟩ := by
  rw [run, prepare_none, failed]

section

variable {ts : List (Transaction α)} {rs : List (Rule α)}
  (loaded : l.load files (inputPlace o) (rulesPlaceOf o) = .ok (ts, rs))
include loaded

theorem run_of_unreported {fault : Fault}
    (failed : Analyst.standard.report ts rs (.day (o.today.getD clock)) = .error fault) :
    l.run Settings.none files clock o = ⟨[], .error (.own fault)⟩ := by
  rw [run, prepare_none, loaded]
  simp only [reportOn, Analyst.ofSettings_none, ok_bind, failed, mapError_error, error_bind]

theorem run_of_report {report : Report α}
    (made : Analyst.standard.report ts rs (.day (o.today.getD clock)) = .ok report) :
    l.run Settings.none files clock o =
      l.conclude (.finished report.consoleText (savedFiles report)) := by
  rw [run, prepare_none, loaded]
  simp only [reportOn, Analyst.ofSettings_none, ok_bind, made, mapError_ok]

end

theorem run_of_breaksOff {l : Library ε γ Float} {saved : List (String × γ)} {failure : Failure ε}
    (broken : BreaksOff files (inputPlace o) (rulesPlaceOf o) l (o.today.getD clock)
        saved failure) :
    l.run Settings.none files clock o = ⟨saved, .error failure⟩ := by
  cases broken with
  | transactions held raises =>
    refine run_of_raised (load_of_transactions ?_)
    rw [held, loadTransactionsBy_of_raises raises]
  | rules loaded held raises =>
    refine run_of_raised (load_of_rules loaded ?_)
    rw [held, loadRulesBy, raises, mapError_error, error_bind]
  | calendar loaded beyond =>
    refine run_of_unreported loaded ?_
    rw [Analyst.report]
    change Detector.standard.detect _ >>= _ = _
    rw [beyond, error_bind]
  | saving loaded made upTo =>
    rw [run_of_report loaded made, conclude, saveAll_of_savesUpTo upTo]
  | showing loaded made all unshown =>
    rw [run_of_report loaded made, conclude, all, unshown]
    rfl

/-- Bytes that are no text break a run off. -/
theorem run_of_undecodable {files : Place → Option ByteArray} {clock : Date} {o : Options}
    {content : ByteArray} (held : files (inputPlace o) = some content)
    (noText : String.fromUTF8? content = none) :
    bytes.run (Settings.none : Settings Float) files clock o =
      ⟨[], .error (.raised .undecodable)⟩ := by
  have unread : (bytes : Library BytesFault ByteArray Float).table content =
      .error .undecodable := by
    change (decodeBytes content >>= _) = _
    rw [decodeBytes, noText, error_bind]
  exact run_of_breaksOff (.transactions held (.table unread))

end Library

end RecurringPayments
