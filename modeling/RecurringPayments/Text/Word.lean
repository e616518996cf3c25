import RecurringPayments.Text.WordTable
import RecurringPayments.Text.HiddenTable

/-!
Two classes of characters: those that make up words, and those without a visible form.
-/
namespace RecurringPayments.Text

def isWordChar (c : Char) : Bool :=
  if c.toNat < 128 then c.isAlphanum || c == '_' else wideWordRanges.has c

def isHidden (c : Char) : Bool :=
  if c.toNat < 128 then c.toNat < 32 || c.toNat == 127 else wideHiddenRanges.has c

end RecurringPayments.Text
