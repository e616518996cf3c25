/-!
Everything that can go wrong, by its cause. `Fault.message?` gives the wording of those that the
library finds itself; the others are a mismatch of kinds and have no wording of their own.
-/
namespace RecurringPayments

/-- A malformed place in a list of rule records. Rules, conditions and actions count from one. -/
inductive RulePlace where
  | rules
  | rule (n : Nat)
  | conditions (n : Nat)
  | condition (n i : Nat)
  | actions (n : Nat)
  | action (n i : Nat)
  deriving DecidableEq, Repr

inductive Shape where
  | aList
  | aMapping
  deriving DecidableEq, Repr

/-- Input that a reader refuses. Names and values are kept as messages show them. -/
inductive InputFault where
  | missingColumns (columns : List String)
  | unreadableDates (ids : List String)
  | unreadableAmounts (ids : List String)
  | wrongShape (place : RulePlace) (expected : Shape) (found : String)
  | unreadableRules (file : String)
  deriving DecidableEq, Repr

inductive FileRole where
  | configuration
  | rules
  | transactions
  deriving DecidableEq, Repr

inductive ScalarFault where
  | outOfRange
  | noDigits
  | noTruthValue
  | noDateForm
  deriving DecidableEq, Repr

inductive DocumentFault where
  | character
  | token
  | grammar
  | reference
  | content
  | scalar (cause : ScalarFault)
  deriving DecidableEq, Repr

inductive Fault where
  | input (cause : InputFault)
  | transition (id current target : String)
  | statusChange
  | unknownBuckets (names known : List String)
  | missingBlock (name : String) (available : List String)
  | missingFile (role : FileRole) (path : String)
  | missingKey
  | kindMismatch
  /-- A value without the property asked of it, such as the keys of a number. -/
  | lacksProperty
  | tooLarge
  | notANumber
  | noSuchGroup
  | unreadableDate
  | outsideCalendar
  | emptyTable
  | malformedTable
  | malformedDocument (cause : DocumentFault)
  deriving DecidableEq, Repr

/-- Values that do not go together: moments on the clocks of several zones. -/
def Fault.mixedZones : Fault := .notANumber

/-- Why a step fails that calls on functions from outside: over a fault of its own, or over what one
of these raised. -/
inductive Failure (ε : Type) where
  | own (fault : Fault)
  | raised (cause : ε)

def Failure.fault : Failure Fault → Fault
  | own fault | raised fault => fault

namespace RulePlace

def number (n : Nat) : String := String.ofList (Nat.toDigits 10 n)

def text : RulePlace → String
  | rules => "Rules"
  | rule n => "Rule " ++ number n
  | conditions n => "Rule " ++ number n ++ " conditions"
  | condition n i => "Rule " ++ number n ++ " condition " ++ number i
  | actions n => "Rule " ++ number n ++ " actions"
  | action n i => "Rule " ++ number n ++ " action " ++ number i

end RulePlace

def Shape.text : Shape → String
  | .aList => "a list"
  | .aMapping => "a mapping"

def FileRole.text : FileRole → String
  | .configuration => "Configuration"
  | .rules => "Rules"
  | .transactions => "Transactions"

def listText (items : List String) : String := "[" ++ ", ".intercalate items ++ "]"

namespace InputFault

def message : InputFault → String
  | missingColumns columns => "Missing required columns: " ++ listText columns
  | unreadableDates ids => "Unparsable dates for transactions: " ++ listText ids
  | unreadableAmounts ids => "Non-numeric amounts for transactions: " ++ listText ids
  | wrongShape place expected found =>
    place.text ++ ": expected " ++ expected.text ++ ", got " ++ found
  | unreadableRules file => "Could not parse rules file " ++ file

end InputFault

namespace Fault

def message? : Fault → Option String
  | input cause => some cause.message
  | transition id current target =>
    some ("Subscription '" ++ id ++ "' cannot move from '" ++ current ++ "' to '" ++ target ++ "'")
  | statusChange => some "Use pause(), resume() or cancel() to change status"
  | unknownBuckets names known =>
    some ("Unknown frequency bucket(s) in config: " ++ listText names ++
      ". Expected a subset of: " ++ listText known)
  | missingBlock name available =>
    some ("Config block '" ++ name ++ "' is missing. Available: " ++ listText available)
  | missingFile role path => some (role.text ++ " file not found: " ++ path)
  | _ => none

end Fault

end RecurringPayments
