import RecurringPayments.Text.Blank
import RecurringPayments.Text.Lower
import RecurringPayments.Text.Word
import RecurringPayments.Value.Text

/-!
The key under which the transactions of one merchant are gathered: the merchant's text in lower
case, without one trailing company form and without needless blanks.
-/
namespace RecurringPayments.MerchantKey

def companyForms : List (List Char) :=
  [['i', 'n', 'c'], ['l', 'l', 'c'], ['c', 'o', 'r', 'p'], ['l', 't', 'd']]

def isLetter (written expected : Char) : Bool :=
  written == expected || (expected == 'i' && written == 'ı')

def dropLetters? : (form : List Char) → List Char → Option (List Char)
  | [], s => some s
  | _ :: _, [] => none
  | e :: form, c :: cs => if isLetter c e then dropLetters? form cs else none

/-- Takes a company form off the end of a text that is given backwards: the form has to be a word
of its own, or to follow a character that makes no word. -/
def dropFormBackwards? (s : List Char) : Option (List Char) :=
  companyForms.findSome? fun form =>
    (dropLetters? form.reverse s).bind fun rest =>
      if rest.head?.any Text.isWordChar then none else some rest

def dropFirst (c : Char) : List Char → List Char
  | d :: ds => if d == c then ds else d :: ds
  | [] => []

def withoutForm (s : List Char) : List Char :=
  match dropFormBackwards? (dropFirst '.' (dropFirst '\n' s.reverse)) with
  | some rest => (rest.dropWhile Text.isBlank).reverse
  | none => s

def ofText (s : List Char) : List Char :=
  Text.trim (Text.collapse (withoutForm (Text.lower s)))

/-- An empty value has the empty key; any other is taken by its text. -/
def ofValue {α : Type} [Scalar α] (v : Value α) : String :=
  if v.isEmpty then "" else String.ofList (ofText v.plain.toList)

end RecurringPayments.MerchantKey
