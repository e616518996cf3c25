import RecurringPayments.Rule.Record
import RecurringPayments.Transaction.Reading

/-!
What a run calls on from outside: the readers of tables and documents, and the writers of files and
of the console. What they raise passes through the run.
-/
namespace RecurringPayments

variable {ε ε' γ δ α : Type} [Scalar α]

/-- The functions from outside that a run calls, for files of contents `γ`. -/
structure Library (ε γ α : Type) [Scalar α] extends TransactionReaders ε α where
  table : γ → Except ε (Table α)
  /-- What a file holds, or nothing if it has not the form of a document. -/
  document : γ → Except ε (Option (Value α))
  encode : String → Except ε γ
  print : String → Except ε Unit

inductive BytesFault where
  | undecodable
  | fault (cause : Fault)

namespace Library

def text : Library Fault (List Char) α where
  toTransactionReaders := .standard
  table := Table.ofCsv
  document := Yaml.readDocument
  encode s := .ok s.toList
  print _ := .ok ()

/-- The library for files that hold others' contents in some encoding. -/
def encoded (l : Library ε γ α) (raise : ε → ε') (decode : δ → Except ε' γ) (encode : γ → δ) :
    Library ε' δ α where
  dates := l.dates.mapError raise
  amounts := l.amounts.mapError raise
  table content := do (l.table (← decode content)).mapError raise
  document content := do (l.document (← decode content)).mapError raise
  encode s := ((l.encode s).mapError raise).map encode
  print s := (l.print s).mapError raise

def decodeBytes (content : ByteArray) : Except BytesFault (List Char) :=
  match String.fromUTF8? content with
  | some s => .ok s.toList
  | none => .error .undecodable

def bytes : Library BytesFault ByteArray α :=
  text.encoded .fault decodeBytes fun s => (String.ofList s).toUTF8

end Library

end RecurringPayments
