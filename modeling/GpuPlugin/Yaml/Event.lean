import GpuPlugin.Yaml.Token

/-!
# Yaml/Event — a document from its first node to its last

Tokens tell where nodes begin and collections end.  Reading them gives these events one by one, so
that a text which breaks off still has the events before the fault.  Anchors take numbers, and
aliases are known by the number that their name has when they are met.
-/

namespace GpuPlugin.Yaml

open Text (Octets octetsOf)

/-- What is said of a node before its content: the place it starts at, its tag in full, and the
number of its anchor. -/
structure Props where
  mark : Mark
  tag : Option Octets := none
  anchor : Option Nat := none
  deriving DecidableEq, Repr

inductive Event where
  | scalar (props : Props) (text : String) (style : Style)
  | sequenceStart (props : Props)
  | mappingStart (props : Props)
  /-- The end of the innermost collection. -/
  | collectionEnd
  | alias (mark : Mark) (anchor : Nat)
  deriving DecidableEq, Repr

/-- **The events of the one document of a text**, and what is wrong with the text in it or after it.
-/
structure Events where
  list : List Event
  fault : Option SyntaxError := none
  deriving DecidableEq, Repr

/-- The tokens ahead and what comes instead of more of them, the prefixes of handles, the number
that each anchor's name has now, and the events so far, the last one first. -/
structure Reader where
  tokens : List Token
  fault : Option SyntaxError := none
  handles : List (String × Octets) := []
  anchors : List (String × Nat) := []
  events : List Event := []

/-- Reading ends at a fault, and keeps the events before it. -/
abbrev ReadM := ExceptT SyntaxError (StateM Reader)

namespace Reader

/-- The token ahead. -/
def peek : ReadM Token := do
  let r ← get
  match r.tokens, r.fault with
  | t :: _, _ => return t
  | [], some e => throw e
  | [], none => return ⟨.streamEnd, {}, {}⟩

/-- Pass over a token. -/
def skip : ReadM Unit := modify fun r => { r with tokens := r.tokens.drop 1 }

def fail {α : Type} (p : Problem) : ReadM α := do
  throw ⟨p, (← peek).start⟩

def emit (e : Event) : ReadM Unit := modify fun r => { r with events := e :: r.events }

/-- A node that takes up no room. -/
def emitMissing (m : Mark) : ReadM Unit := emit (.scalar { mark := m } "" .plain)

/-- Give a name the next number: as many as there are names already. -/
def register (name : String) : ReadM Nat :=
  modifyGet fun r =>
    let n := r.anchors.length
    (n, { r with anchors := (name, n) :: r.anchors.filter (·.1 != name) })

/-- The full text of a tag. -/
def expand (t : WrittenTag) : ReadM Octets := do
  if t.handle = "" then return t.suffix
  match (← get).handles.lookup t.handle with
  | some octets => return octets ++ t.suffix
  | none => fail .tagHandle

/-- An anchor's name, if one is ahead. -/
def readAnchor : ReadM (Option String) := do
  match (← peek).kind with
  | .anchor name => skip; return some name
  | _ => return none

/-- A tag, if one is ahead. -/
def readTag : ReadM (Option WrittenTag) := do
  match (← peek).kind with
  | .tag t => skip; return some t
  | _ => return none

/-- An anchor and a tag in any order, each at most once. -/
def readAnchorAndTag : ReadM (Option String × Option WrittenTag) := do
  match ← readAnchor with
  | some name => return (some name, ← readTag)
  | none =>
    match ← readTag with
    | some t => return (← readAnchor, some t)
    | none => return (none, none)

/-- What is said of the node ahead. -/
def readProps : ReadM Props := do
  let first ← peek
  let (anchor, tag) ← readAnchorAndTag
  let _ ← peek
  return ⟨first.start, ← tag.mapM expand, ← anchor.mapM register⟩

/-- Where a node stands. -/
inductive Place where
  | inFlow
  | inBlock
  /-- The key or the value of a block mapping, which may be a sequence that is not set in. -/
  | besideColon
  deriving DecidableEq

/-- Whether a node is missing before a token, in a block. -/
def endsItem (place : Place) (k : Token.Kind) : Bool :=
  match k, place with
  | .blockEntry, .inBlock | .blockEnd, _ | .key, .besideColon | .value, .besideColon => true
  | _, _ => false

mutual

/-- Read a node. -/
def readNode : Nat → Place → ReadM Unit
  | 0, _ => fail .missingContent
  | fuel + 1, place => do
    let t ← peek
    if let .alias name := t.kind then
      match (← get).anchors.lookup name with
      | some n => skip; emit (.alias t.start n); return
      | none => fail .unknownAlias
    let p ← readProps
    let t ← peek
    match t.kind, place with
    | .blockEntry, .besideColon => emit (.sequenceStart p); readLevelItems fuel
    | .scalar text style, _ => skip; emit (.scalar p text style)
    | .flowSequenceStart, _ => emit (.sequenceStart p); skip; readFlowItems fuel true
    | .flowMappingStart, _ => emit (.mappingStart p); skip; readFlowEntries fuel true
    | .blockSequenceStart, .inBlock | .blockSequenceStart, .besideColon =>
      emit (.sequenceStart p); skip; readItems fuel
    | .blockMappingStart, .inBlock | .blockMappingStart, .besideColon =>
      emit (.mappingStart p); skip; readEntries fuel
    | _, _ =>
      if p.tag.isSome || p.anchor.isSome then emit (.scalar p "" .plain)
      else fail .missingContent

/-- Read the items of a block sequence. -/
def readItems : Nat → ReadM Unit
  | 0 => fail .missingSeparator
  | fuel + 1 => do
    let t ← peek
    match t.kind with
    | .blockEntry =>
      skip
      if endsItem .inBlock (← peek).kind then emitMissing t.stop else readNode fuel .inBlock
      readItems fuel
    | .blockEnd => skip; emit .collectionEnd
    | _ => fail .missingSeparator

/-- Read the items of a block sequence that is not set in from the mapping around it. -/
def readLevelItems : Nat → ReadM Unit
  | 0 => fail .missingSeparator
  | fuel + 1 => do
    let t ← peek
    match t.kind with
    | .blockEntry =>
      skip
      let next := (← peek).kind
      if endsItem .inBlock next || endsItem .besideColon next then emitMissing t.stop
      else readNode fuel .inBlock
      readLevelItems fuel
    | _ => emit .collectionEnd

/-- Read the entries of a block mapping. -/
def readEntries : Nat → ReadM Unit
  | 0 => fail .missingSeparator
  | fuel + 1 => do
    let t ← peek
    match t.kind with
    | .key =>
      skip
      if endsItem .besideColon (← peek).kind then emitMissing t.stop
      else readNode fuel .besideColon
      let v ← peek
      if v.kind = .value then
        skip
        if endsItem .besideColon (← peek).kind then emitMissing v.stop
        else readNode fuel .besideColon
      else emitMissing v.start
      readEntries fuel
    | .blockEnd => skip; emit .collectionEnd
    | _ => fail .missingSeparator

/-- Read the items of a flow sequence; all but the first follow a comma. -/
def readFlowItems : Nat → Bool → ReadM Unit
  | 0, _ => fail .missingSeparator
  | fuel + 1, first => do
    if !first && (← peek).kind ≠ .flowSequenceEnd then
      if (← peek).kind = .flowEntry then skip else fail .missingSeparator
    let t ← peek
    match t.kind with
    | .flowSequenceEnd => skip; emit .collectionEnd
    | .key =>
      emit (.mappingStart { mark := t.start })
      skip
      readPair fuel
      emit .collectionEnd
      readFlowItems fuel false
    | _ =>
      readNode fuel .inFlow
      readFlowItems fuel false

/-- Read a pair that stands in a flow sequence, after the sign of its key.  When the key is missing,
the token after the sign is passed over. -/
def readPair : Nat → ReadM Unit
  | 0 => fail .missingSeparator
  | fuel + 1 => do
    let ends (k : Token.Kind) : Bool := k = .flowEntry || k = .flowSequenceEnd
    let t ← peek
    if t.kind = .value || ends t.kind then
      skip
      emitMissing t.stop
    else readNode fuel .inFlow
    readFlowValue fuel ends

/-- Read the value of a key in brackets, unless its colon is missing or nothing comes after it. -/
def readFlowValue : Nat → (Token.Kind → Bool) → ReadM Unit
  | 0, _ => fail .missingSeparator
  | fuel + 1, ends => do
    if (← peek).kind = .value then
      skip
      if ends (← peek).kind then emitMissing (← peek).start else readNode fuel .inFlow
    else emitMissing (← peek).start

/-- Read the entries of a flow mapping; all but the first follow a comma. -/
def readFlowEntries : Nat → Bool → ReadM Unit
  | 0, _ => fail .missingSeparator
  | fuel + 1, first => do
    let ends (k : Token.Kind) : Bool := k = .flowEntry || k = .flowMappingEnd
    if !first && (← peek).kind ≠ .flowMappingEnd then
      if (← peek).kind = .flowEntry then skip else fail .missingSeparator
    match (← peek).kind with
    | .flowMappingEnd => skip; emit .collectionEnd
    | .key =>
      skip
      let next ← peek
      if next.kind = .value || ends next.kind then emitMissing next.start
      else readNode fuel .inFlow
      readFlowValue fuel ends
      readFlowEntries fuel false
    | _ =>
      readNode fuel .inFlow
      emitMissing (← peek).start
      readFlowEntries fuel false

end

/-- Read the directives of a document. -/
def readDirectives : Nat → Bool → ReadM Unit
  | 0, _ => pure ()
  | fuel + 1, versioned => do
    match (← peek).kind with
    | .directive (.version major minor) =>
      if versioned || major ≠ 1 || (minor ≠ 1 && minor ≠ 2) then fail .directive
      skip
      readDirectives fuel true
    | .directive (.tagPrefix handle octets) =>
      if ((← get).handles.lookup handle).isSome then fail .directive
      modify fun r => { r with handles := (handle, octets) :: r.handles }
      skip
      readDirectives fuel versioned
    | _ => pure ()

/-- The handles that every document has, unless it says otherwise. -/
def commonHandles : List (String × Octets) :=
  [("!", octetsOf "!"), ("!!", octetsOf "tag:yaml.org,2002:")]

/-- Read the end of the document.  Nothing may come after it but marks of its end; whatever is wrong
there counts as another document. -/
def readEnd : ReadM Unit := do
  if (← peek).kind = .documentEnd then skip
  match (← get).tokens.dropWhile (·.kind = .documentEnd) with
  | [] => throw ⟨.severalDocuments, {}⟩
  | t :: _ => if t.kind ≠ .streamEnd then throw ⟨.severalDocuments, t.start⟩

/-- Read the document of a text, unless the text holds nothing at all. -/
def readDocument : ReadM Unit := do
  let fuel := 4 * (← get).tokens.length + 4
  if (← peek).kind = .streamEnd then return
  let declared := (← peek).kind matches .directive _
  readDirectives fuel false
  modify fun r => { r with handles := r.handles ++ commonHandles }
  if (← peek).kind = .documentStart then
    skip
    let t ← peek
    match t.kind with
    | .directive _ | .documentStart | .documentEnd | .streamEnd => emitMissing t.start
    | _ => readNode fuel .inBlock
  else
    if declared then fail .directive
    readNode fuel .inBlock
  readEnd

end Reader

/-- **The events that tokens stand for.** -/
def Events.ofTokens (ts : Tokens) : Events :=
  let (outcome, r) := (Reader.readDocument.run).run { tokens := ts.list, fault := ts.fault }
  let fault := match outcome with
    | .ok () => none
    | .error e => some e
  ⟨r.events.reverse, fault⟩

end GpuPlugin.Yaml
