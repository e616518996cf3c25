import RecurringPayments.Text.CaseTable

/-!
Lower case of whole texts: one character for one, but for the dotted capital i, which becomes
two, and the capital sigma, which has a final form at the end of a word.
-/
namespace RecurringPayments.Text

def lowerChar (c : Char) : Char :=
  if c.toNat < 128 then
    if 65 ≤ c.toNat && c.toNat ≤ 90 then Char.ofNat (c.toNat + 32) else c
  else
    match lowerRuns.find? (·.has c) with
    | some run => run.apply c
    | none => c

def isCaseSkipped (c : Char) : Bool := caseSkippedRanges.has c

def isCased (c : Char) : Bool := casedRanges.has c

def casedFollows : List Char → Bool
  | [] => false
  | c :: cs => if isCaseSkipped c then casedFollows cs else isCased c

def lowerFrom : (afterCased : Bool) → List Char → List Char
  | _, [] => []
  | afterCased, c :: cs =>
    if c == 'Σ' then
      (if afterCased && !casedFollows cs then 'ς' else 'σ') :: lowerFrom true cs
    else if c == 'İ' then
      'i' :: '\u0307' :: lowerFrom true cs
    else
      lowerChar c :: lowerFrom (if isCaseSkipped c then afterCased else isCased c) cs

def lower (s : List Char) : List Char := lowerFrom false s

end RecurringPayments.Text
