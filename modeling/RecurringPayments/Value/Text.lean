import RecurringPayments.Value.Basic

/-!
The text of a value: plain where it stands alone, quoted where it stands inside a list, a mapping
or a message.
-/
namespace RecurringPayments

namespace Value

variable {α : Type} [Scalar α]

def commaSeparated (parts : List String) : String := ", ".intercalate parts

def bracketed (parts : List String) : String := "[" ++ commaSeparated parts ++ "]"

/-- Numbers have as many digits as it takes: no limit is set to their text. -/
def numberText (n : Nat) : String := String.ofList (Nat.toDigits 10 n)

def intText (n : Int) : String := if n < 0 then "-" ++ numberText n.natAbs else numberText n.natAbs

def boolText (b : Bool) : String := if b then "True" else "False"

def quotedText (s : String) : String := String.ofList (Text.quoted s.toList)

def dateParts (d : Date) : List String := [d.year, d.month, d.day].map numberText

def clockParts (micros : Nat) : List String :=
  let seconds := micros / 1000000
  let fraction := micros % 1000000
  let parts := [seconds / 3600, seconds / 60 % 60]
  let parts :=
    if fraction != 0 then parts ++ [seconds % 60, fraction]
    else if seconds % 60 != 0 then parts ++ [seconds % 60]
    else parts
  parts.map numberText

def zoneText (minutes : Int) : String :=
  if minutes == 0 then "tzinfo=datetime.timezone.utc"
  else
    let seconds := minutes * 60
    let inside :=
      if seconds < 0 then
        "days=-1, seconds=" ++ intText (seconds + 86400)
      else "seconds=" ++ intText seconds
    "tzinfo=datetime.timezone(datetime.timedelta(" ++ inside ++ "))"

def quotedDate (d : Date) : String := "datetime.date(" ++ commaSeparated (dateParts d) ++ ")"

def quotedMoment (m : Moment) : String :=
  "datetime.datetime(" ++
    commaSeparated (dateParts m.date ++ clockParts m.micros ++ m.zone.toList.map zoneText) ++ ")"

mutual

def quoted : Value α → String
  | .null => "None"
  | .bool b => boolText b
  | .int n => intText n
  | .real x => Scalar.text x
  | .text s => quotedText s
  | .date d => quotedDate d
  | .moment m => quotedMoment m
  | .list items => bracketed (quotedItems items)
  | .mapping entries => "\x7b" ++ commaSeparated (quotedEntries entries) ++ "\x7d"

def quotedItems : List (Value α) → List String
  | [] => []
  | v :: vs => quoted v :: quotedItems vs

def quotedEntries : List (Value α × Value α) → List String
  | [] => []
  | (k, v) :: rest => (quoted k ++ ": " ++ quoted v) :: quotedEntries rest

end

def plain : Value α → String
  | .text s => s
  | .date d => d.text
  | .moment m => m.text ' '
  | v => quoted v

end Value

end RecurringPayments
