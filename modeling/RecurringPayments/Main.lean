import RecurringPayments.Command.Run
import RecurringPayments.Number.Binary64
import Std.Time.Format

/-!
The program: reads the two files and the clock, runs, shows the report and saves its tables.
-/
namespace RecurringPayments.Command

def usage : String :=
  "usage: recurring-payments [-h] [--input FILE] [--rules FILE] [--today DATE] [--output-dir DIR]"

def defaultOutputDir : String := "outputs"

def readPlace (place : Place) : IO (Option ByteArray) := do
  match place with
  | .bundled name =>
    if let some text := Sample.file? name then return some text.toUTF8
    readPath name
  | .path name => readPath name
where
  readPath (name : String) : IO (Option ByteArray) := do
    try
      return some (← IO.FS.readBinFile name)
    catch
      | .noFileOrDirectory .. => return none
      | e => throw e

def clockDate : IO Date := do
  let d ← Std.Time.PlainDate.now
  match Date.ofCivil? d.year.toInt.toNat d.month.toNat d.day.toNat with
  | some date => return date
  | none => throw (IO.userError "the clock shows no date of the calendar")

def timeStamp : IO String := do
  let t ← Std.Time.PlainDateTime.now
  let part (width n : Nat) : String := String.ofList (Text.padded width (Nat.toDigits 10 n))
  return part 4 t.date.year.toInt.toNat ++ part 2 t.date.month.toNat ++ part 2 t.date.day.toNat ++
    "_" ++ part 2 t.time.hour.toNat ++ part 2 t.time.minute.toNat ++
    part 2 t.time.second.toNat

def save (dir : String) (files : List (String × ByteArray)) : IO Unit := do
  if files.isEmpty then return
  IO.FS.createDirAll dir
  let stamp ← timeStamp
  for (name, content) in files do
    IO.FS.writeBinFile (dir ++ "/" ++ name ++ "_" ++ stamp ++ ".csv") content

def describe (cause : Fault) : String := (cause.message?).getD (reprStr cause)

def describeFailure : Failure BytesFault → String
  | .own cause | .raised (.fault cause) => describe cause
  | .raised .undecodable => "a file that is no text"

def runWith (o : Options) : IO UInt32 := do
  let config : Settings Float := Settings.none
  let input := inputPlace o
  let rules ← IO.ofExcept ((rulesPlace config o).mapError describe)
  let inputContent ← readPlace input
  let rulesContent ← readPlace rules
  let files (place : Place) := if place == input then inputContent else rulesContent
  let result := Library.bytes.run config files (← clockDate) o
  save ((o.outputDir.filter (!·.isEmpty)).getD defaultOutputDir) result.saved
  match result.ending with
  | .error cause => throw (IO.userError (describeFailure cause))
  | .ok ending =>
    match ending with
    | .finished console _ => IO.print console
    | .missing cause => IO.eprintln (describe cause)
    | .malformed cause => IO.eprintln ("Invalid input: " ++ cause.message)
    return ending.code.toUInt32

end RecurringPayments.Command

open RecurringPayments.Command in
def main (args : List String) : IO UInt32 := do
  match Options.read args with
  | .ok o => runWith o
  | .error .helpWanted => do
    IO.println usage
    return 0
  | .error .badUsage => do
    IO.eprintln usage
    return 2
