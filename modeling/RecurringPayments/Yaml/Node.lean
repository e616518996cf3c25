import RecurringPayments.Yaml.Token
import RecurringPayments.Yaml.Tag

/-!
The tree of a document, read from its tokens. References to earlier nodes are replaced by those
nodes; a text holds one document.
-/
namespace RecurringPayments.Yaml

inductive Node where
  | scalar (tag : Tag) (text : List Char)
  | sequence (tag : Tag) (items : List Node)
  | mapping (tag : Tag) (entries : List (Node × Node))

instance : Inhabited Node := ⟨.scalar .null []⟩

def Node.empty : Node := .scalar .null []

structure Reader where
  tokens : List Token
  anchors : List (String × Node)
  handles : List (String × String)

abbrev Read := StateT Reader (Except DocumentFault)

namespace Reader

def fail {β : Type} (cause : DocumentFault) : Read β := throw cause

def peek : Read Token := do
  match (← get).tokens with
  | .fault cause :: _ => fail cause
  | t :: _ => return t
  | [] => return .streamEnd

def skip : Read Unit := modify fun r => { r with tokens := r.tokens.drop 1 }

def skipIf (t : Token) : Read Bool := do
  if (← peek) == t then
    skip
    return true
  else return false

def nextIn (ts : List Token) : Read Bool := return ts.contains (← peek)

structure Properties where
  anchor : Option String
  tag : Option String

def resolveTag (handle : Option String) (suffix : String) : Read String := do
  match handle with
  | none => return suffix
  | some h =>
    match (← get).handles.lookup h with
    | some leader => return leader ++ suffix
    | none => fail .grammar

def properties : Read Properties := do
  match ← peek with
  | .anchor name =>
    skip
    match ← peek with
    | .tag handle suffix =>
      skip
      return ⟨some name, some (← resolveTag handle suffix)⟩
    | _ => return ⟨some name, none⟩
  | .tag handle suffix =>
    skip
    match ← peek with
    | .anchor name =>
      skip
      return ⟨some name, some (← resolveTag handle suffix)⟩
    | _ => return ⟨none, some (← resolveTag handle suffix)⟩
  | _ => return ⟨none, none⟩

def scalarTag (tag : Option String) (plain : Bool) (text : List Char) : Tag :=
  match tag with
  | some "!" => Tag.ofPlain (dropLastFeed text)
  | some name => Tag.ofName name
  | none => if plain then Tag.ofPlain text else .text

def collectionTag (tag : Option String) (usual : Tag) : Tag :=
  match tag with
  | none | some "!" => usual
  | some name => Tag.ofName name

def bind (anchor : Option String) (n : Node) : Read Unit :=
  match anchor with
  | some name => modify fun r => { r with anchors := (name, n) :: r.anchors }
  | none => pure ()

def declare (anchor : Option String) (n : Node) : Read Unit := do
  let known := (← get).anchors
  if anchor.any fun name => (known.lookup name).isSome then fail .reference
  bind anchor n

mutual

/-- Reads a node. Inside a mapping, a sequence may begin without being indented. -/
def node (block indentless : Bool) : (fuel : Nat) → Read Node
  | 0 => fail .grammar
  | fuel + 1 => do
    if let .alias name ← peek then
      skip
      match (← get).anchors.lookup name with
      | some n => return n
      | none => fail .reference
    let p ← properties
    let t ← peek
    let sequenceTag := collectionTag p.tag .sequence
    let mappingTag := collectionTag p.tag .mapping
    let emptySequence := Node.sequence sequenceTag []
    let emptyMapping := Node.mapping mappingTag []
    let n ←
      if indentless && t == .blockEntry then do
        declare p.anchor emptySequence
        pure (.sequence sequenceTag (← bareItems fuel))
      else
        match t with
        | .scalar text plain => do
          let n := Node.scalar (scalarTag p.tag plain text) text
          declare p.anchor n
          skip
          pure n
        | .flowSequenceStart => do
          declare p.anchor emptySequence
          skip
          pure (.sequence sequenceTag (← flowItems true fuel))
        | .flowMappingStart => do
          declare p.anchor emptyMapping
          skip
          pure (.mapping mappingTag (← flowEntries true fuel))
        | .blockSequenceStart => do
          if !block then fail .grammar
          declare p.anchor emptySequence
          skip
          pure (.sequence sequenceTag (← blockItems fuel))
        | .blockMappingStart => do
          if !block then fail .grammar
          declare p.anchor emptyMapping
          skip
          pure (.mapping mappingTag (← blockEntries fuel))
        | _ =>
          if p.anchor.isSome || p.tag.isSome then do
            let n := Node.scalar (scalarTag p.tag true []) []
            declare p.anchor n
            pure n
          else fail .grammar
    bind p.anchor n
    return n

def blockItems : (fuel : Nat) → Read (List Node)
  | 0 => fail .grammar
  | fuel + 1 => do
    if ← skipIf .blockEntry then
      let item ←
        if ← nextIn [.blockEntry, .blockEnd] then pure Node.empty else node true false fuel
      return item :: (← blockItems fuel)
    else if ← skipIf .blockEnd then return []
    else fail .grammar

def bareItems : (fuel : Nat) → Read (List Node)
  | 0 => fail .grammar
  | fuel + 1 => do
    if ← skipIf .blockEntry then
      let item ←
        if ← nextIn [.blockEntry, .key, .value, .blockEnd] then pure Node.empty
        else node true false fuel
      return item :: (← bareItems fuel)
    else return []

def blockEntries : (fuel : Nat) → Read (List (Node × Node))
  | 0 => fail .grammar
  | fuel + 1 => do
    if ← skipIf .key then
      let k ←
        if ← nextIn [.key, .value, .blockEnd] then pure Node.empty else node true true fuel
      let v ←
        if ← skipIf .value then
          if ← nextIn [.key, .value, .blockEnd] then pure Node.empty else node true true fuel
        else pure Node.empty
      return (k, v) :: (← blockEntries fuel)
    else if ← skipIf .blockEnd then return []
    else fail .grammar

def flowItems (first : Bool) : (fuel : Nat) → Read (List Node)
  | 0 => fail .grammar
  | fuel + 1 => do
    if ← skipIf .flowSequenceEnd then return []
    if !first then
      if !(← skipIf .flowEntry) then fail .grammar
    if ← skipIf .flowSequenceEnd then return []
    let item ←
      if ← skipIf .key then do
        let k ←
          if ← nextIn [.value, .flowEntry, .flowSequenceEnd] then pure Node.empty
          else node false false fuel
        let v ← flowValue .flowSequenceEnd fuel
        pure (.mapping .mapping [(k, v)])
      else node false false fuel
    return item :: (← flowItems false fuel)

def flowEntries (first : Bool) : (fuel : Nat) → Read (List (Node × Node))
  | 0 => fail .grammar
  | fuel + 1 => do
    if ← skipIf .flowMappingEnd then return []
    if !first then
      if !(← skipIf .flowEntry) then fail .grammar
    if ← skipIf .flowMappingEnd then return []
    let entry ←
      if ← skipIf .key then do
        let k ←
          if ← nextIn [.value, .flowEntry, .flowMappingEnd] then pure Node.empty
          else node false false fuel
        let v ← flowValue .flowMappingEnd fuel
        pure (k, v)
      else do
        let k ← node false false fuel
        pure (k, Node.empty)
    return entry :: (← flowEntries false fuel)

def flowValue (closing : Token) : (fuel : Nat) → Read Node
  | 0 => fail .grammar
  | fuel + 1 => do
    if ← skipIf .value then
      if ← nextIn [.flowEntry, closing] then return Node.empty else node false false fuel
    else return Node.empty

end

def usualHandles : List (String × String) := [("!", "!"), ("!!", "tag:yaml.org,2002:")]

def isDirective : Token → Bool
  | .versionDirective _ | .tagDirective _ _ | .otherDirective => true
  | _ => false

def directives (versions : Nat) : (fuel : Nat) → Read Unit
  | 0 => fail .grammar
  | fuel + 1 => do
    match ← peek with
    | .versionDirective major =>
      if versions != 0 || major != 1 then fail .grammar
      skip
      directives 1 fuel
    | .tagDirective handle leader =>
      let isNew := fun (p : String × String) => p.1 == handle && !usualHandles.contains p
      if (← get).handles.any isNew then fail .grammar
      skip
      modify fun r => { r with handles := (handle, leader) :: r.handles }
      directives versions fuel
    | .otherDirective =>
      skip
      directives versions fuel
    | _ => pure ()

def skipDocumentEnds : (fuel : Nat) → Read Unit
  | 0 => fail .grammar
  | fuel + 1 => do
    if ← skipIf .documentEnd then skipDocumentEnds fuel

def document (fuel : Nat) : Read (Option Node) := do
  let t ← peek
  let root ←
    if isDirective t || t == .documentStart || t == .streamEnd then do
      if t == .streamEnd then return none
      directives 0 fuel
      if !(← skipIf .documentStart) then fail .grammar
      let t ← peek
      if isDirective t || [.documentStart, .documentEnd, .streamEnd].contains t then
        pure Node.empty
      else node true false fuel
    else node true false fuel
  let _ ← skipIf .documentEnd
  skipDocumentEnds fuel
  if (← peek) == .streamEnd then return some root
  modify fun r => { r with handles := usualHandles }
  directives 0 fuel
  if ← skipIf .documentStart then fail .reference else fail .grammar

end Reader

/-- The tree of a text, `none` if it holds no document. Each call takes a token or closes a node,
so three for each token suffice. -/
def Node.ofText (s : List Char) : Except DocumentFault (Option Node) :=
  if s.all isAllowed then
    let tokens := Token.ofText s
    (Reader.document (3 * tokens.length + 3)).run' ⟨tokens, [], Reader.usualHandles⟩
  else .error .character

end RecurringPayments.Yaml
