import RecurringPayments.Text.Word

/-!
Texts in quotes, as messages show them: single quotes unless only double ones spare an escape,
and hidden characters by their number.
-/
namespace RecurringPayments.Text

def hexDigits (n : Nat) : List Char := Nat.toDigits 16 n

def padded (width : Nat) (ds : List Char) : List Char :=
  List.replicate (width - ds.length) '0' ++ ds

def escapeOf (quote : Char) (c : Char) : List Char :=
  if c == '\\' || c == quote then ['\\', c]
  else if c == '\n' then ['\\', 'n']
  else if c == '\r' then ['\\', 'r']
  else if c == '\t' then ['\\', 't']
  else if isHidden c then
    if c.toNat < 0x100 then '\\' :: 'x' :: padded 2 (hexDigits c.toNat)
    else if c.toNat < 0x10000 then '\\' :: 'u' :: padded 4 (hexDigits c.toNat)
    else '\\' :: 'U' :: padded 8 (hexDigits c.toNat)
  else [c]

def quoteFor (s : List Char) : Char :=
  if s.contains '\'' && !s.contains '"' then '"' else '\''

def quoted (s : List Char) : List Char :=
  let quote := quoteFor s
  quote :: (s.flatMap (escapeOf quote) ++ [quote])

end RecurringPayments.Text
