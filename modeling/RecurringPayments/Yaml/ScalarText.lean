import RecurringPayments.Yaml.Cursor
import RecurringPayments.Fault

/-!
Reading the text of one scalar: plain, quoted, or as a block of lines.
-/
namespace RecurringPayments.Yaml

abbrev Scan := Except DocumentFault

abbrev Found (β : Type) := β × Cursor

def refuse {β : Type} : Scan β := .error .token

/-- Line ends of otherwise empty lines, spaces before them skipped. Stops at a document mark,
with `none`. -/
def emptyLines (c : Cursor) (read : List Char) : (fuel : Nat) → Option (List Char) × Cursor
  | 0 => (some read, c)
  | fuel + 1 =>
    match c.peek with
    | some d =>
      if d == ' ' then emptyLines c.forward read fuel
      else if isBreak d then
        let (text, c) := c.lineEnd
        if c.atMark then (none, c) else emptyLines c (read ++ text) fuel
      else (some read, c)
    | none => (some read, c)

/-- A line end inside a scalar is a space; empty lines after it are kept as line feeds. -/
def foldLines (lineEnd empties : List Char) : List Char :=
  if lineEnd != ['\n'] then lineEnd ++ empties
  else if empties.isEmpty then [' ']
  else empties

/-! ### Plain scalars -/

def stopsPlain (inFlow : Bool) (d : Char) (next : Option Char) : Bool :=
  d == ' ' || d == '\t' || isBreak d ||
    (d == ':' && (endsToken next ||
      (inFlow && (next.any fun e => [',', '[', ']', '\x7b', '\x7d'].contains e)))) ||
    (inFlow && [',', '?', '[', ']', '\x7b', '\x7d'].contains d)

def plainWord (inFlow : Bool) : List Char → List Char
  | [] => []
  | d :: rest => if stopsPlain inFlow d rest.head? then [] else d :: plainWord inFlow rest

/-- The space between two words of a plain scalar: `none` when a document mark follows. Also tells
whether a line was ended. -/
def plainSpace (c : Cursor) : Option (List Char) × Bool × Cursor :=
  let (spaces, c) := c.spanWhile (· == ' ')
  if c.peek.any isBreak then
    let (text, c) := c.lineEnd
    if c.atMark then (none, true, c)
    else
      let (empties, c) := emptyLines c [] (c.rest.length + 1)
      (empties.map (foldLines text), true, c)
  else (some spaces, false, c)

def plainWords (inFlow : Bool) (indent : Int) (c : Cursor) (read space : List Char)
    (allowKey : Bool) : (fuel : Nat) → List Char × Bool × Cursor
  | 0 => (read, allowKey, c)
  | fuel + 1 =>
    if c.peek == some '#' then (read, allowKey, c)
    else
      let word := plainWord inFlow c.rest
      if word.isEmpty then (read, allowKey, c)
      else
        let read := read ++ space ++ word
        let (space, ended, c) := plainSpace (c.forwardBy word.length)
        match space with
        | none => (read, ended, c)
        | some space =>
          if space.isEmpty || c.peek == some '#' || (!inFlow && (c.column : Int) < indent) then
            (read, ended, c)
          else plainWords inFlow indent c read space ended fuel

/-! ### Quoted scalars -/

def simpleEscapes : List (Char × Char) :=
  [('0', '\x00'), ('a', '\x07'), ('b', '\x08'), ('t', '\t'), ('\t', '\t'), ('n', '\n'),
    ('v', '\x0b'), ('f', '\x0c'), ('r', '\r'), ('e', '\x1b'), (' ', ' '), ('"', '"'),
    ('\\', '\\'), ('/', '/'), ('N', '\x85'), ('_', '\xa0'), ('L', '\u2028'), ('P', '\u2029')]

def hexValue? (c : Char) : Option Nat :=
  if c.isDigit then some (c.toNat - 48)
  else if 'a' ≤ c ∧ c ≤ 'f' then some (c.toNat - 87)
  else if 'A' ≤ c ∧ c ≤ 'F' then some (c.toNat - 55)
  else none

def hexNumber? (ds : List Char) : Option Nat :=
  ds.foldlM (fun n d => (hexValue? d).map (n * 16 + ·)) 0

def escapeLength (c : Char) : Option Nat :=
  if c == 'x' then some 2 else if c == 'u' then some 4 else if c == 'U' then some 8 else none

def quotedEmptyLines (c : Cursor) (read : List Char) : (fuel : Nat) → Scan (Found (List Char))
  | 0 => .ok (read, c)
  | fuel + 1 =>
    if c.atMark then refuse
    else
      let c := c.skipBlanks
      if c.peek.any isBreak then
        let (text, c) := c.lineEnd
        quotedEmptyLines c (read ++ text) fuel
      else .ok (read, c)

/-- What an escape stands for. Half of a surrogate pair is no character. -/
def readEscape (c : Cursor) : Scan (Found (List Char)) :=
  match c.peek with
  | none => refuse
  | some d =>
    match simpleEscapes.lookup d with
    | some e => .ok ([e], c.forward)
    | none =>
      match escapeLength d with
      | some n =>
        let ds := c.forward.rest.take n
        match hexNumber? ds with
        | some code =>
          if ds.length == n then
            if code.isValidChar then .ok ([Char.ofNat code], c.forward.forwardBy n)
            else .error (.scalar .outOfRange)
          else refuse
        | none => refuse
      | none =>
        if isBreak d then
          let (_, c) := c.lineEnd
          quotedEmptyLines c [] (c.rest.length + 1)
        else refuse

def quotedSpace (c : Cursor) : Scan (Found (List Char)) :=
  let (blanks, c) := c.spanWhile fun d => d == ' ' || d == '\t'
  match c.peek with
  | none => refuse
  | some d =>
    if isBreak d then do
      let (text, c) := c.lineEnd
      let (empties, c) ← quotedEmptyLines c [] (c.rest.length + 1)
      return (foldLines text empties, c)
    else .ok (blanks, c)

def quotedText (double : Bool) (c : Cursor) (read : List Char) :
    (fuel : Nat) → Scan (Found (List Char))
  | 0 => refuse
  | fuel + 1 =>
    match c.peek with
    | none => refuse
    | some d =>
      if d == ' ' || d == '\t' || isBreak d then do
        let (space, c) ← quotedSpace c
        quotedText double c (read ++ space) fuel
      else if double then
        if d == '"' then .ok (read, c.forward)
        else if d == '\\' then do
          let (text, c) ← readEscape c.forward
          quotedText double c (read ++ text) fuel
        else quotedText double c.forward (read ++ [d]) fuel
      else if d == '\'' then
        if c.peekAt 1 == some '\'' then quotedText double (c.forwardBy 2) (read ++ ['\'']) fuel
        else .ok (read, c.forward)
      else quotedText double c.forward (read ++ [d]) fuel

/-! ### Block scalars -/

inductive Chomp where
  | strip
  | clip
  | keep
  deriving DecidableEq

def chompOf? (c : Option Char) : Option Chomp :=
  if c == some '+' then some .keep else if c == some '-' then some .strip else none

def blockHeader (c : Cursor) : Scan (Found (Chomp × Option Nat)) := do
  let digit? (c : Cursor) : Scan (Found (Option Nat)) :=
    match c.peek with
    | some d =>
      if d == '0' then refuse
      else if d.isDigit then .ok (some (d.toNat - 48), c.forward)
      else .ok (none, c)
    | none => .ok (none, c)
  let (header, c) ←
    match chompOf? c.peek with
    | some chomp => do
      let (n, c) ← digit? c.forward
      pure ((chomp, n), c)
    | none => do
      let (n, c) ← digit? c
      match n, chompOf? c.peek with
      | some n, some chomp => pure ((chomp, some n), c.forward)
      | _, _ => pure ((Chomp.clip, n), c)
  if !endsWord c.peek then refuse
  let c := c.skipSpaces
  let c := if c.peek == some '#' then (c.spanWhile fun d => !isBreak d).2 else c
  if endsLine c.peek then return (header, c.lineEnd.2) else refuse

def blockIndentation (c : Cursor) (read : List Char) (deepest : Nat) :
    (fuel : Nat) → List Char × Nat × Cursor
  | 0 => (read, deepest, c)
  | fuel + 1 =>
    match c.peek with
    | some d =>
      if d == ' ' then
        let c := c.forward
        blockIndentation c read (max deepest c.column) fuel
      else if isBreak d then
        let (text, c) := c.lineEnd
        blockIndentation c (read ++ text) deepest fuel
      else (read, deepest, c)
    | none => (read, deepest, c)

def skipIndent (c : Cursor) (indent : Nat) : Cursor :=
  c.forwardBy (min (indent - c.column) (c.rest.takeWhile (· == ' ')).length)

def blockEmptyLines (indent : Nat) (c : Cursor) (read : List Char) :
    (fuel : Nat) → List Char × Cursor
  | 0 => (read, c)
  | fuel + 1 =>
    let c := skipIndent c indent
    if c.peek.any isBreak then
      let (text, c) := c.lineEnd
      blockEmptyLines indent c (read ++ text) fuel
    else (read, c)

def startsBlank (c : Cursor) : Bool := c.peek == some ' ' || c.peek == some '\t'

def blockLines (folded : Bool) (indent : Nat) (c : Cursor) (read lineEnd empties : List Char) :
    (fuel : Nat) → (List Char × List Char × List Char) × Cursor
  | 0 => ((read, lineEnd, empties), c)
  | fuel + 1 =>
    if c.column == indent && c.peek.isSome then
      let textFirst := !startsBlank c
      let (line, c) := c.spanWhile fun d => !isBreak d
      let read := read ++ empties ++ line
      let (lineEnd, c) := c.lineEnd
      let (empties, c) := blockEmptyLines indent c [] (c.rest.length + 1)
      if c.column == indent && c.peek.isSome then
        let joint :=
          if folded && lineEnd == ['\n'] && textFirst && !startsBlank c then
            if empties.isEmpty then [' '] else []
          else lineEnd
        blockLines folded indent c (read ++ joint) [] empties fuel
      else ((read, lineEnd, empties), c)
    else ((read, lineEnd, empties), c)

def blockText (folded : Bool) (parent : Int) (c : Cursor) : Scan (Found (List Char)) := do
  let ((chomp, increment), c) ← blockHeader c
  let least := max 1 (parent + 1).toNat
  let fuel := c.rest.length + 1
  let (empties, indent, c) :=
    match increment with
    | some n =>
      let indent := least + n - 1
      let (empties, c) := blockEmptyLines indent c [] fuel
      (empties, indent, c)
    | none =>
      let (empties, deepest, c) := blockIndentation c [] 0 fuel
      (empties, max least deepest, c)
  let ((text, lineEnd, empties), c) := blockLines folded indent c [] [] empties fuel
  let tail :=
    match chomp with
    | .strip => []
    | .clip => lineEnd
    | .keep => lineEnd ++ empties
  return (text ++ tail, c)

end RecurringPayments.Yaml
