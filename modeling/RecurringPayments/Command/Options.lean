import RecurringPayments.Calendar.Iso

/-!
The arguments of the command line. An option is named in full or by any beginning that fits no
other one, its value follows as the next argument or after an equals sign, and of several values
the last one counts. Nothing but options is accepted.
-/
namespace RecurringPayments.Command

structure Options where
  input : Option String := none
  rules : Option String := none
  today : Option Date := none
  outputDir : Option String := none

inductive Name where
  | input
  | rules
  | today
  | outputDir
  | help
  deriving DecidableEq, Repr

inductive Refusal where
  | helpWanted
  | badUsage
  deriving DecidableEq, Repr

def longNames : List (String × Name) :=
  [("--help", .help), ("--input", .input), ("--rules", .rules), ("--today", .today),
    ("--output-dir", .outputDir)]

inductive Argument where
  | value (s : String)
  | option (name : Name) (attached : Option String)
  | unknown
  | ambiguous
  deriving DecidableEq, Repr

def splitEquals (s : List Char) : List Char × Option String :=
  match s.dropWhile (· != '=') with
  | [] => (s, none)
  | _ :: rest => (s.takeWhile (· != '='), some (String.ofList rest))

def isNegativeNumber : List Char → Bool
  | '-' :: s =>
    let whole := s.takeWhile Char.isDigit
    match s.dropWhile Char.isDigit with
    | [] => !whole.isEmpty
    | '.' :: fraction => !fraction.isEmpty && fraction.all Char.isDigit
    | _ => false
  | _ => false

/-- A hyphen before text that names no option: only numbers and texts with a space are values. -/
def unnamed (s : List Char) : Argument :=
  if isNegativeNumber s || s.contains ' ' then .value (String.ofList s) else .unknown

def named (s : List Char) : Argument :=
  let (name, attached) := splitEquals s
  match longNames.lookup (String.ofList name) with
  | some n => .option n attached
  | none =>
    match longNames.filter fun p => name.isPrefixOf p.1.toList with
    | [] => unnamed s
    | [p] => .option p.2 attached
    | _ => .ambiguous

def Argument.ofText (s : String) : Argument :=
  match s.toList with
  | [] | ['-'] => .value s
  | ['-', 'h'] => .option .help none
  | '-' :: 'h' :: rest => .option .help (some (String.ofList rest))
  | '-' :: '-' :: rest => named ('-' :: '-' :: rest)
  | '-' :: rest => unnamed ('-' :: rest)
  | _ => .value s

namespace Options

def set (o : Options) (name : Name) (value : String) : Except Refusal Options :=
  match name with
  | .input => .ok { o with input := some value }
  | .rules => .ok { o with rules := some value }
  | .outputDir => .ok { o with outputDir := some value }
  | .today =>
    match Date.ofIso? value with
    | some d => .ok { o with today := some d }
    | none => .error .badUsage
  | .help => .error .badUsage

def readFrom (o : Options) (strange : Bool) : List Argument → Except Refusal Options
  | [] => if strange then .error .badUsage else .ok o
  | .option .help none :: _ => .error .helpWanted
  | .option name (some value) :: rest => do readFrom (← o.set name value) strange rest
  | .option name none :: .value value :: rest => do readFrom (← o.set name value) strange rest
  | .option _ none :: _ => .error .badUsage
  | .value _ :: rest | .unknown :: rest => readFrom o true rest
  | .ambiguous :: _ => .error .badUsage

/-- Two hyphens alone end the options; as nothing but options is accepted, they are refused. -/
def read (args : List String) : Except Refusal Options :=
  let known := (args.takeWhile (· != "--")).map Argument.ofText
  if known.contains .ambiguous then .error .badUsage
  else readFrom {} (args.contains "--") known

end Options

end RecurringPayments.Command
