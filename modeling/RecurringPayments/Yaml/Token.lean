import RecurringPayments.Yaml.ScalarText

/-!
The tokens of a document. Indentation becomes explicit starts and ends of blocks; a key is known
as one only when its colon is reached, so its place is kept open until then.
-/
namespace RecurringPayments.Yaml

inductive Token where
  | streamEnd
  | versionDirective (major : Nat)
  | tagDirective (handle leader : String)
  | otherDirective
  | documentStart
  | documentEnd
  | blockSequenceStart
  | blockMappingStart
  | blockEnd
  | flowSequenceStart
  | flowSequenceEnd
  | flowMappingStart
  | flowMappingEnd
  | blockEntry
  | flowEntry
  | key
  | value
  | alias (name : String)
  | anchor (name : String)
  | tag (handle : Option String) (suffix : String)
  | scalar (text : List Char) (plain : Bool)
  | fault (cause : DocumentFault)
  deriving DecidableEq

/-- A token, or the place of a key: still open, taken, or taken by the first key of a block. -/
inductive Slot where
  | token (t : Token)
  | openKey
  | key
  | firstKey

def Slot.tokens : Slot → List Token
  | token t => [t]
  | openKey => []
  | key => [.key]
  | firstKey => [.blockMappingStart, .key]

/-- A scalar or collection that may turn out to be a key, and the slot kept open before it. -/
structure Candidate where
  flow : Nat
  slot : Nat
  required : Bool
  index : Nat
  line : Nat
  column : Nat

structure Scanner where
  cursor : Cursor
  flow : Nat
  indent : Int
  indents : List Int
  allowKey : Bool
  candidates : List Candidate
  slots : Array Slot

namespace Scanner

def start (s : List Char) : Scanner :=
  ⟨Cursor.start (if s.head? == some '\uFEFF' then s.drop 1 else s), 0, -1, [], true, [], #[]⟩

def inFlow (s : Scanner) : Bool := s.flow != 0

def column (s : Scanner) : Int := s.cursor.column

def push (s : Scanner) (t : Token) : Scanner := { s with slots := s.slots.push (.token t) }

def take (s : Scanner) (n : Nat) (t : Token) : Scanner :=
  { s with cursor := s.cursor.forwardBy n }.push t

/-- A candidate is lost once its line is left or it grows too long. -/
def isStale (s : Scanner) (k : Candidate) : Bool :=
  k.line != s.cursor.line || s.cursor.index - k.index > 1024

def dropStale (s : Scanner) : Scan Scanner := do
  if s.candidates.any fun k => s.isStale k && k.required then refuse
  return { s with candidates := s.candidates.filter fun k => !s.isStale k }

def dropCandidate (s : Scanner) : Scan Scanner := do
  if s.candidates.any fun k => k.flow == s.flow && k.required then refuse
  return { s with candidates := s.candidates.filter fun k => k.flow != s.flow }

def saveCandidate (s : Scanner) : Scan Scanner := do
  if !s.allowKey then return s
  let s ← s.dropCandidate
  let c := s.cursor
  let k : Candidate := {
    flow := s.flow
    slot := s.slots.size
    required := !s.inFlow && s.indent == s.column
    index := c.index
    line := c.line
    column := c.column }
  return { s with candidates := k :: s.candidates, slots := s.slots.push .openKey }

def unwindTo (s : Scanner) (column : Int) : Scanner :=
  if s.inFlow then s
  else
    let rec go (slots : Array Slot) (indent : Int) : List Int → Array Slot × Int × List Int
      | [] => (slots, indent, [])
      | outer :: rest =>
        if indent > column then go (slots.push (.token .blockEnd)) outer rest
        else (slots, indent, outer :: rest)
    let (slots, indent, indents) := go s.slots s.indent s.indents
    { s with slots, indent, indents }

def indentTo (s : Scanner) (column : Int) : Bool × Scanner :=
  if s.indent < column then
    (true, { s with indents := s.indent :: s.indents, indent := column })
  else (false, s)

/-- Skips spaces, comments and line ends. Outside brackets a new line may begin a key. -/
def skipToToken (s : Scanner) : (fuel : Nat) → Scanner
  | 0 => s
  | fuel + 1 =>
    let c := s.cursor.skipSpaces
    let c := if c.peek == some '#' then (c.spanWhile fun d => !isBreak d).2 else c
    if c.peek.any isBreak then
      { s with cursor := c.lineEnd.2, allowKey := s.allowKey || !s.inFlow }.skipToToken fuel
    else { s with cursor := c }

/-! ### Names, tags and directives -/

def isNameChar (c : Char) : Bool := c.isAlphanum || c == '-' || c == '_'

def readName (c : Cursor) : Scan (Found String) :=
  let (name, c) := c.spanWhile isNameChar
  if name.isEmpty then refuse
  else if endsToken c.peek ||
      c.peek.any ['?', ':', ',', ']', '\x7d', '%', '@', '\x60'].contains then
    .ok (String.ofList name, c)
  else refuse

def isTagChar (c : Char) : Bool := c.isAlphanum || "-;/?:@&=+$,_.!~*'()[]".contains c

def escapedBytes (c : Cursor) (read : List UInt8) : (fuel : Nat) → Scan (Found (List UInt8))
  | 0 => .ok (read, c)
  | fuel + 1 =>
    match c.rest with
    | '%' :: a :: b :: _ =>
      match hexNumber? [a, b] with
      | some n => escapedBytes (c.forwardBy 3) (read ++ [n.toUInt8]) fuel
      | none => refuse
    | '%' :: _ => refuse
    | _ => .ok (read, c)

def readTagChars (c : Cursor) (read : List Char) : (fuel : Nat) → Scan (Found (List Char))
  | 0 => .ok (read, c)
  | fuel + 1 => do
    let (text, c) := c.spanWhile isTagChar
    if c.peek == some '%' then
      let (bytes, c) ← escapedBytes c [] (c.rest.length + 1)
      match String.fromUTF8? (ByteArray.mk bytes.toArray) with
      | some escaped => readTagChars c (read ++ text ++ escaped.toList) fuel
      | none => refuse
    else return (read ++ text, c)

def readTagText (c : Cursor) : Scan (Found String) := do
  let (text, c) ← readTagChars c [] (c.rest.length + 1)
  if text.isEmpty then refuse else return (String.ofList text, c)

def readHandle (c : Cursor) : Scan (Found String) :=
  if c.peek != some '!' then refuse
  else
    let (name, c) := c.forward.spanWhile isNameChar
    if c.peek == some '!' then .ok (String.ofList ('!' :: name ++ ['!']), c.forward)
    else if name.isEmpty && c.peek == some ' ' then .ok ("!", c)
    else refuse

def readTag (c : Cursor) : Scan (Found Token) := do
  let (t, c) ←
    if c.peekAt 1 == some '<' then do
      let (text, c) ← readTagText (c.forwardBy 2)
      if c.peek != some '>' then refuse
      pure (Token.tag none text, c.forward)
    else if endsToken (c.peekAt 1) then pure (Token.tag none "!", c.forward)
    else if ((c.rest.drop 1).takeWhile fun d => !endsWord (some d)).contains '!' then do
      let (handle, c) ← readHandle c
      let (text, c) ← readTagText c
      pure (Token.tag (some handle) text, c)
    else do
      let (text, c) ← readTagText c.forward
      pure (Token.tag (some "!") text, c)
  if endsWord c.peek then return (t, c) else refuse

def endDirective (c : Cursor) : Scan Cursor :=
  let c := c.skipSpaces
  let c := if c.peek == some '#' then (c.spanWhile fun d => !isBreak d).2 else c
  if endsLine c.peek then .ok c.lineEnd.2 else refuse

def readNumber (c : Cursor) : Scan (Found Nat) :=
  let (ds, c) := c.spanWhile Char.isDigit
  if ds.isEmpty then refuse
  else .ok (ds.foldl (fun n d => n * 10 + (d.toNat - 48)) 0, c)

def readDirective (c : Cursor) : Scan (Found Token) := do
  let (name, c) := c.forward.spanWhile isNameChar
  if name.isEmpty || !endsWord c.peek then refuse
  if String.ofList name == "YAML" then
    let (major, c) ← readNumber c.skipSpaces
    if c.peek != some '.' then refuse
    let (_, c) ← readNumber c.forward
    if !endsWord c.peek then refuse
    return (.versionDirective major, ← endDirective c)
  else if String.ofList name == "TAG" then
    let (handle, c) ← readHandle c.skipSpaces
    if c.peek != some ' ' then refuse
    let (leader, c) ← readTagText c.skipSpaces
    if !endsWord c.peek then refuse
    return (.tagDirective handle leader, ← endDirective c)
  else
    return (.otherDirective, ← endDirective (c.spanWhile fun d => !isBreak d).2)

/-! ### One step -/

def openBracket (s : Scanner) (t : Token) : Scan Scanner := do
  let s ← s.saveCandidate
  return { s with flow := s.flow + 1, allowKey := true }.take 1 t

def closeBracket (s : Scanner) (t : Token) : Scan Scanner := do
  let s ← s.dropCandidate
  return { s with flow := s.flow - 1, allowKey := false }.take 1 t

def markDocument (s : Scanner) (t : Token) : Scan Scanner := do
  let s ← (s.unwindTo (-1)).dropCandidate
  return { s with allowKey := false }.take 3 t

def entry (s : Scanner) : Scan Scanner := do
  let s ←
    if s.inFlow then pure s
    else if !s.allowKey then refuse
    else
      let (opened, s) := s.indentTo s.column
      pure (if opened then s.push .blockSequenceStart else s)
  let s ← { s with allowKey := true }.dropCandidate
  return s.take 1 .blockEntry

def explicitKey (s : Scanner) : Scan Scanner := do
  let s ←
    if s.inFlow then pure s
    else if !s.allowKey then refuse
    else
      let (opened, s) := s.indentTo s.column
      pure (if opened then s.push .blockMappingStart else s)
  let s ← { s with allowKey := !s.inFlow }.dropCandidate
  return s.take 1 .key

def colon (s : Scanner) : Scan Scanner := do
  match s.candidates.find? (·.flow == s.flow) with
  | some k =>
    let s := { s with candidates := s.candidates.filter fun k => k.flow != s.flow }
    let (opened, s) := if s.inFlow then (false, s) else s.indentTo k.column
    let slots := s.slots.setIfInBounds k.slot (if opened then .firstKey else .key)
    return { s with slots, allowKey := false }.take 1 .value
  | none =>
    let s ←
      if s.inFlow then pure s
      else if !s.allowKey then refuse
      else
        let (opened, s) := s.indentTo s.column
        pure (if opened then s.push .blockMappingStart else s)
    let s ← { s with allowKey := !s.inFlow }.dropCandidate
    return s.take 1 .value

/-- A token that may be a key, read by `read` from the cursor on. -/
def readToken (s : Scanner) (read : Cursor → Scan (Found Token)) : Scan Scanner := do
  let s ← s.saveCandidate
  let (t, c) ← read s.cursor
  return { s with cursor := c, allowKey := false }.push t

def blockScalar (s : Scanner) (folded : Bool) : Scan Scanner := do
  let s ← { s with allowKey := true }.dropCandidate
  let (text, c) ← blockText folded s.indent s.cursor.forward
  return { s with cursor := c }.push (.scalar text false)

def quotedScalar (s : Scanner) (double : Bool) : Scan Scanner :=
  s.readToken fun c => do
    let (text, c) ← quotedText double c.forward [] (c.rest.length + 1)
    return (.scalar text false, c)

def plainScalar (s : Scanner) : Scan Scanner := do
  let s ← s.saveCandidate
  let c := s.cursor
  let (text, allowKey, c) :=
    plainWords s.inFlow (s.indent + 1) c [] [] false (c.rest.length + 1)
  return { s with cursor := c, allowKey }.push (.scalar text true)

def startsPlain (s : Scanner) (d : Char) (next : Option Char) : Bool :=
  !(endsToken (some d) || "-?:,[]\x7b\x7d#&*!|>'\"%@\x60".contains d) ||
    (!endsToken next && (d == '-' || (!s.inFlow && (d == '?' || d == ':'))))

def dispatch (s : Scanner) (d : Char) : Scan Scanner :=
  let c := s.cursor
  let next := c.peekAt 1
  if d == '%' && c.column == 0 then do
    let s ← (s.unwindTo (-1)).dropCandidate
    let (t, c) ← readDirective s.cursor
    return { s with cursor := c, allowKey := false }.push t
  else if c.column == 0 && c.atMark then
    s.markDocument (if d == '-' then .documentStart else .documentEnd)
  else if d == '[' then s.openBracket .flowSequenceStart
  else if d == '\x7b' then s.openBracket .flowMappingStart
  else if d == ']' then s.closeBracket .flowSequenceEnd
  else if d == '\x7d' then s.closeBracket .flowMappingEnd
  else if d == ',' then do
    let s ← { s with allowKey := true }.dropCandidate
    return s.take 1 .flowEntry
  else if d == '-' && endsToken next then s.entry
  else if d == '?' && (s.inFlow || endsToken next) then s.explicitKey
  else if d == ':' && (s.inFlow || endsToken next) then s.colon
  else if d == '*' then
    s.readToken fun c => do
      let (name, c) ← readName c.forward
      return (.alias name, c)
  else if d == '&' then
    s.readToken fun c => do
      let (name, c) ← readName c.forward
      return (.anchor name, c)
  else if d == '!' then s.readToken readTag
  else if d == '|' && !s.inFlow then s.blockScalar false
  else if d == '>' && !s.inFlow then s.blockScalar true
  else if d == '\'' then s.quotedScalar false
  else if d == '"' then s.quotedScalar true
  else if s.startsPlain d next then s.plainScalar
  else refuse

def step (s : Scanner) : Scan (Scanner × Bool) := do
  let s ← (s.skipToToken (s.cursor.rest.length + 1)).dropStale
  let s := s.unwindTo s.column
  match s.cursor.peek with
  | none =>
    let s ← (s.unwindTo (-1)).dropCandidate
    return (s.push .streamEnd, true)
  | some d => return (← s.dispatch d, false)

/-- Ends the tokens with a fault of the next step. What may be a key is no token before that is
decided, so the fault stands in the place of the first open candidate. -/
def stop (s : Scanner) (cause : DocumentFault) : Array Slot :=
  let isOpen := s.candidates.filter fun k => !s.isStale k
  let cut := isOpen.foldl (fun n k => min n k.slot) s.slots.size
  (s.slots.extract 0 cut).push (.token (.fault cause))

def hasLostKey (s : Scanner) : Bool := s.candidates.any fun k => k.required && s.isStale k

def run (s : Scanner) : (fuel : Nat) → Array Slot
  | 0 => s.stop .token
  | fuel + 1 =>
    match s.step with
    | .ok (next, true) => next.slots
    | .ok (next, false) => if next.hasLostKey then s.stop .token else next.run fuel
    | .error cause => s.stop cause

end Scanner

def Token.ofText (s : List Char) : List Token :=
  ((Scanner.start s).run (s.length + 2)).toList.flatMap Slot.tokens

end RecurringPayments.Yaml
