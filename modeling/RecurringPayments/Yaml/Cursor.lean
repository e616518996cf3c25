/-!
A place in a document that is being read: what is left of it, and the line and column reached.
Line ends are one character, a line feed or one of the three wide breaks.
-/
namespace RecurringPayments.Yaml

structure Cursor where
  rest : List Char
  index : Nat
  line : Nat
  column : Nat

namespace Cursor

def start (s : List Char) : Cursor := ⟨s, 0, 0, 0⟩

def peek (c : Cursor) : Option Char := c.rest.head?

def peekAt (c : Cursor) (n : Nat) : Option Char := (c.rest.drop n).head?

end Cursor

def isWideBreak (c : Char) : Bool := c == '\x85' || c == '\u2028' || c == '\u2029'

def isBreak (c : Char) : Bool := c == '\n' || isWideBreak c

def endsLine : Option Char → Bool
  | none => true
  | some c => isBreak c

def endsWord : Option Char → Bool
  | none => true
  | some c => c == ' ' || isBreak c

def endsToken : Option Char → Bool
  | none => true
  | some c => c == ' ' || c == '\t' || isBreak c

namespace Cursor

def forward (c : Cursor) : Cursor :=
  match c.rest with
  | [] => c
  | d :: rest =>
    if isBreak d then ⟨rest, c.index + 1, c.line + 1, 0⟩
    else ⟨rest, c.index + 1, c.line, if d == '\uFEFF' then c.column else c.column + 1⟩

def forwardBy (c : Cursor) : (n : Nat) → Cursor
  | 0 => c
  | n + 1 => c.forward.forwardBy n

def spanWhile (c : Cursor) (p : Char → Bool) : List Char × Cursor :=
  let front := c.rest.takeWhile p
  (front, c.forwardBy front.length)

def skipSpaces (c : Cursor) : Cursor := (c.spanWhile (· == ' ')).2

def skipBlanks (c : Cursor) : Cursor := (c.spanWhile fun d => d == ' ' || d == '\t').2

/-- Reads a line end, if one is here. Only the two wide separators keep their character. -/
def lineEnd (c : Cursor) : List Char × Cursor :=
  match c.rest with
  | d :: _ =>
    if d == '\n' || d == '\x85' then (['\n'], c.forward)
    else if isBreak d then ([d], c.forward)
    else ([], c)
  | [] => ([], c)

def atMark (c : Cursor) : Bool :=
  (c.rest.take 3 == ['-', '-', '-'] || c.rest.take 3 == ['.', '.', '.']) && endsToken (c.peekAt 3)

end Cursor

def unifyLineEnds : List Char → List Char
  | [] => []
  | '\r' :: '\n' :: cs => '\n' :: unifyLineEnds cs
  | '\r' :: cs => '\n' :: unifyLineEnds cs
  | c :: cs => c :: unifyLineEnds cs

def isAllowed (c : Char) : Bool :=
  let n := c.toNat
  n == 0x9 || n == 0xA || n == 0xD || (0x20 ≤ n && n ≤ 0x7E) || n == 0x85 ||
    (0xA0 ≤ n && n ≤ 0xD7FF) || (0xE000 ≤ n && n ≤ 0xFFFD) || 0x10000 ≤ n

end RecurringPayments.Yaml
