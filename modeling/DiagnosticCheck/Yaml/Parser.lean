import DiagnosticCheck.Yaml.Scanner
import DiagnosticCheck.Yaml.Event

/-!
# The parser

A state machine over tokens that hands out one event at a time. A stream is an optional implicit
document followed by explicit ones, each opened by `---` after its directives. Nodes are aliases,
or an anchor and a tag in either order followed by content: a scalar, a flow collection, or in
block context a block collection; a sequence of `-` entries may stand unindented as a mapping's
value. Tags are written out with the handles of the document's `%TAG` directives, `!` and `!!`
standing for `!` and `tag:yaml.org,2002:` unless redefined.
-/

namespace DiagnosticCheck.Yaml

/-- What the parser reads next. -/
inductive Step where
  | streamStart
  | implicitDocumentStart
  | documentStart
  | documentEnd
  | documentContent
  | blockNode
  | blockSequenceFirstEntry
  | blockSequenceEntry
  | indentlessSequenceEntry
  | blockMappingFirstKey
  | blockMappingKey
  | blockMappingValue
  | flowSequenceFirstEntry
  | flowSequenceEntry
  | flowSequenceEntryMappingKey
  | flowSequenceEntryMappingValue
  | flowSequenceEntryMappingEnd
  | flowMappingFirstKey
  | flowMappingKey
  | flowMappingValue
  | flowMappingEmptyValue
  | finished
  deriving Repr, DecidableEq

def defaultTagHandles : List (String × String) :=
  [("!", "!"), ("!!", "tag:yaml.org,2002:")]

/-- The state of the parser: the scanner, the event read ahead, the next step, the steps to
return to, the marks where open collections began, and the tag handles of the document. -/
structure Parser where
  scanner : Scanner := {}
  current : Option Event := none
  step : Step := .streamStart
  states : List Step := []
  marks : List Mark := []
  tagHandles : List (String × String) := []
  deriving Repr

abbrev ParseM := ReaderT (Array Char) (StateT Parser (Except Error))

namespace Parse

/-- Runs a scanner action on the parser's scanner. -/
def scan {α : Type} (x : ScanM α) : ParseM α := do
  let text ← read
  let p ← get
  match (x.run text).run p.scanner with
  | .ok (a, sc) =>
    set { p with scanner := sc }
    return a
  | .error e => throw e

/-- The next token; after the end of the stream, the end again. -/
def peekToken : ParseM Token := do
  match ← scan Scan.peekToken? with
  | some t => return t
  | none =>
    let m ← scan Scan.mark
    return ⟨.streamEnd, m, m⟩

/-- Takes the next token. -/
def getToken : ParseM Token := do
  match ← scan Scan.takeToken? with
  | some t => return t
  | none =>
    let m ← scan Scan.mark
    return ⟨.streamEnd, m, m⟩

def checkToken (shapes : List TokenShape) : ParseM Bool := do
  match ← scan Scan.peekToken? with
  | some t => return shapes.contains t.kind.shape
  | none => return false

def goTo (s : Step) : ParseM Unit :=
  modify fun p => { p with step := s }

def pushState (s : Step) : ParseM Unit :=
  modify fun p => { p with states := s :: p.states }

def popState : ParseM Unit :=
  modify fun p => match p.states with
    | s :: rest => { p with step := s, states := rest }
    | [] => { p with step := .finished }

def pushMark (m : Mark) : ParseM Unit :=
  modify fun p => { p with marks := m :: p.marks }

def popMark : ParseM Unit :=
  modify fun p => { p with marks := p.marks.tail }

def topMark : ParseM (Option Mark) := do
  return (← get).marks.head?

def fail {α : Type} (context : Option String) (contextMark : Option Mark) (problem : String)
    (m : Mark) : ParseM α :=
  throw (Error.at context contextMark problem m)

/-- Reads the directives before a document: at most one `%YAML`, of version 1, and `%TAG`
handles defined once each; the default handles are added. -/
def directives : ParseM Unit := do
  let mut version : Option (Nat × Nat) := none
  let mut handles : List (String × String) := []
  for _ in [0:(← scan Scan.steps)] do
    if !(← checkToken [.directive]) then break
    let t ← getToken
    match t.kind with
    | .directive "YAML" (.version major minor) =>
      if version.isSome then fail none none "found duplicate YAML directive" t.start
      if major ≠ 1 then
        fail none none "found incompatible YAML document (version 1.* is required)" t.start
      version := some (major, minor)
    | .directive "TAG" (.tag handle pfx) =>
      if (handles.lookup handle).isSome then
        fail none none ("duplicate tag handle " ++ Text.cite handle) t.start
      handles := handles ++ [(handle, pfx)]
    | _ => pure ()
  let missing := defaultTagHandles.filter fun (h, _) => (handles.lookup h).isNone
  modify fun p => { p with tagHandles := handles ++ missing }

/-- A node: an alias, or properties followed by content. A sequence of `-` entries right here is
allowed when `indentless` is set. -/
def node (block indentless : Bool) : ParseM Event := do
  if ← checkToken [.alias] then
    let t ← getToken
    popState
    match t.kind with
    | .alias name => return ⟨.alias name, t.start, t.stop⟩
    | _ => return ⟨.alias "", t.start, t.stop⟩
  let mut anchor : Option String := none
  let mut tag : Option (Option String × String) := none
  let mut start : Option Mark := none
  let mut stop : Option Mark := none
  let mut tagMark : Option Mark := none
  if ← checkToken [.anchor] then
    let t ← getToken
    start := some t.start
    stop := some t.stop
    if let .anchor a := t.kind then anchor := some a
    if ← checkToken [.tag] then
      let t ← getToken
      tagMark := some t.start
      stop := some t.stop
      if let .tag h s := t.kind then tag := some (h, s)
  else if ← checkToken [.tag] then
    let t ← getToken
    start := some t.start
    tagMark := some t.start
    stop := some t.stop
    if let .tag h s := t.kind then tag := some (h, s)
    if ← checkToken [.anchor] then
      let t ← getToken
      stop := some t.stop
      if let .anchor a := t.kind then anchor := some a
  let handles := (← get).tagHandles
  let tagText : Option String ← match tag with
    | none => pure none
    | some (none, suffix) => pure (some suffix)
    | some (some handle, suffix) =>
      match handles.lookup handle with
      | some pfx => pure (some (pfx ++ suffix))
      | none =>
        fail (some "while parsing a node") start ("found undefined tag handle " ++ Text.cite handle)
          (tagMark.getD default)
  let next ← peekToken
  let first := start.getD next.start
  let last := stop.getD next.start
  let implicit := tagText.isNone || tagText == some "!"
  if indentless ∧ (← checkToken [.blockEntry]) then
    goTo .indentlessSequenceEntry
    return ⟨.sequenceStart anchor tagText implicit false, first, next.stop⟩
  match next.kind with
  | .scalar value plainScalar style =>
    let t ← getToken
    let pair :=
      if (plainScalar && tagText.isNone) || tagText == some "!" then (true, false)
      else if tagText.isNone then (false, true) else (false, false)
    popState
    return ⟨.scalar anchor tagText pair value style, first, t.stop⟩
  | .flowSequenceStart =>
    goTo .flowSequenceFirstEntry
    return ⟨.sequenceStart anchor tagText implicit true, first, next.stop⟩
  | .flowMappingStart =>
    goTo .flowMappingFirstKey
    return ⟨.mappingStart anchor tagText implicit true, first, next.stop⟩
  | .blockSequenceStart =>
    if block then
      goTo .blockSequenceFirstEntry
      return ⟨.sequenceStart anchor tagText implicit false, first, next.start⟩
  | .blockMappingStart =>
    if block then
      goTo .blockMappingFirstKey
      return ⟨.mappingStart anchor tagText implicit false, first, next.start⟩
  | _ => pure ()
  if anchor.isSome || tagText.isSome then
    popState
    return ⟨.scalar anchor tagText (implicit, false) "" none, first, last⟩
  fail (some ("while parsing a " ++ (if block then "block" else "flow") ++ " node")) (some first)
    ("expected the node content, but found " ++ Text.cite next.kind.name) next.start

def streamStart : ParseM Event := do
  let t ← getToken
  goTo .implicitDocumentStart
  return ⟨.streamStart, t.start, t.stop⟩

/-- The start of an explicit document after its directives, or the end of the stream. -/
def documentStart : ParseM Event := do
  for _ in [0:(← scan Scan.steps)] do
    if ← checkToken [.documentEnd] then
      let _ ← getToken
    else break
  if ← checkToken [.streamEnd] then
    let t ← getToken
    goTo .finished
    return ⟨.streamEnd, t.start, t.stop⟩
  let start := (← peekToken).start
  directives
  if !(← checkToken [.documentStart]) then
    let t ← peekToken
    fail none none ("expected '<document start>', but found " ++ Text.cite t.kind.name) t.start
  let t ← getToken
  pushState .documentEnd
  goTo .documentContent
  return ⟨.documentStart true, start, t.stop⟩

/-- The start of a document without `---`, unless one is there. -/
def implicitDocumentStart : ParseM Event := do
  if ← checkToken [.directive, .documentStart, .streamEnd] then documentStart
  else
    modify fun p => { p with tagHandles := defaultTagHandles }
    let t ← peekToken
    pushState .documentEnd
    goTo .blockNode
    return ⟨.documentStart false, t.start, t.start⟩

/-- The end of a document, with or without `...`. -/
def documentEnd : ParseM Event := do
  let t ← peekToken
  let mut stop := t.start
  let mut explicit := false
  if ← checkToken [.documentEnd] then
    stop := (← getToken).stop
    explicit := true
  goTo .documentStart
  return ⟨.documentEnd explicit, t.start, stop⟩

/-- The content of an explicit document, which may be empty. -/
def documentContent : ParseM Event := do
  if ← checkToken [.directive, .documentStart, .documentEnd, .streamEnd] then
    let m := (← peekToken).start
    popState
    return Event.emptyScalar m
  else node true false

/-- The next entry of a block sequence, or its end. -/
def blockSequenceEntry : ParseM Event := do
  if ← checkToken [.blockEntry] then
    let t ← getToken
    if !(← checkToken [.blockEntry, .blockEnd]) then
      pushState .blockSequenceEntry
      return ← node true false
    else
      goTo .blockSequenceEntry
      return Event.emptyScalar t.stop
  if !(← checkToken [.blockEnd]) then
    let t ← peekToken
    fail (some "while parsing a block collection") (← topMark)
      ("expected <block end>, but found " ++ Text.cite t.kind.name) t.start
  let t ← getToken
  popState
  popMark
  return ⟨.sequenceEnd, t.start, t.stop⟩

/-- The next entry of a sequence of `-` entries at a mapping's indentation, or its end. -/
def indentlessSequenceEntry : ParseM Event := do
  if ← checkToken [.blockEntry] then
    let t ← getToken
    if !(← checkToken [.blockEntry, .key, .value, .blockEnd]) then
      pushState .indentlessSequenceEntry
      return ← node true false
    else
      goTo .indentlessSequenceEntry
      return Event.emptyScalar t.stop
  let t ← peekToken
  popState
  return ⟨.sequenceEnd, t.start, t.start⟩

/-- The next key of a block mapping, or its end. -/
def blockMappingKey : ParseM Event := do
  if ← checkToken [.key] then
    let t ← getToken
    if !(← checkToken [.key, .value, .blockEnd]) then
      pushState .blockMappingValue
      return ← node true true
    else
      goTo .blockMappingValue
      return Event.emptyScalar t.stop
  if !(← checkToken [.blockEnd]) then
    let t ← peekToken
    fail (some "while parsing a block mapping") (← topMark)
      ("expected <block end>, but found " ++ Text.cite t.kind.name) t.start
  let t ← getToken
  popState
  popMark
  return ⟨.mappingEnd, t.start, t.stop⟩

/-- The value of a block mapping's key, which may be missing. -/
def blockMappingValue : ParseM Event := do
  if ← checkToken [.value] then
    let t ← getToken
    if !(← checkToken [.key, .value, .blockEnd]) then
      pushState .blockMappingKey
      node true true
    else
      goTo .blockMappingKey
      return Event.emptyScalar t.stop
  else
    goTo .blockMappingKey
    return Event.emptyScalar (← peekToken).start

/-- The next entry of a flow sequence, or its end; a `?` entry is a mapping of one pair. -/
def flowSequenceEntry (first : Bool) : ParseM Event := do
  if !(← checkToken [.flowSequenceEnd]) then
    if !first then
      if ← checkToken [.flowEntry] then
        let _ ← getToken
      else
        let t ← peekToken
        fail (some "while parsing a flow sequence") (← topMark)
          ("expected ',' or ']', but got " ++ Text.cite t.kind.name) t.start
    if ← checkToken [.key] then
      let t ← peekToken
      goTo .flowSequenceEntryMappingKey
      return ⟨.mappingStart none none true true, t.start, t.stop⟩
    else if !(← checkToken [.flowSequenceEnd]) then
      pushState .flowSequenceEntry
      return ← node false false
  let t ← getToken
  popState
  popMark
  return ⟨.sequenceEnd, t.start, t.stop⟩

/-- The key of a one-pair mapping inside a flow sequence. -/
def flowSequenceEntryMappingKey : ParseM Event := do
  let t ← getToken
  if !(← checkToken [.value, .flowEntry, .flowSequenceEnd]) then
    pushState .flowSequenceEntryMappingValue
    node false false
  else
    goTo .flowSequenceEntryMappingValue
    return Event.emptyScalar t.stop

/-- The value of a one-pair mapping inside a flow sequence. -/
def flowSequenceEntryMappingValue : ParseM Event := do
  if ← checkToken [.value] then
    let t ← getToken
    if !(← checkToken [.flowEntry, .flowSequenceEnd]) then
      pushState .flowSequenceEntryMappingEnd
      node false false
    else
      goTo .flowSequenceEntryMappingEnd
      return Event.emptyScalar t.stop
  else
    goTo .flowSequenceEntryMappingEnd
    return Event.emptyScalar (← peekToken).start

def flowSequenceEntryMappingEnd : ParseM Event := do
  goTo .flowSequenceEntry
  let t ← peekToken
  return ⟨.mappingEnd, t.start, t.start⟩

/-- The next key of a flow mapping, or its end; an entry without `:` has an empty value. -/
def flowMappingKey (first : Bool) : ParseM Event := do
  if !(← checkToken [.flowMappingEnd]) then
    if !first then
      if ← checkToken [.flowEntry] then
        let _ ← getToken
      else
        let t ← peekToken
        fail (some "while parsing a flow mapping") (← topMark)
          ("expected ',' or '" ++ "\x7d" ++ "', but got " ++ Text.cite t.kind.name) t.start
    if ← checkToken [.key] then
      let t ← getToken
      if !(← checkToken [.value, .flowEntry, .flowMappingEnd]) then
        pushState .flowMappingValue
        return ← node false false
      else
        goTo .flowMappingValue
        return Event.emptyScalar t.stop
    else if !(← checkToken [.flowMappingEnd]) then
      pushState .flowMappingEmptyValue
      return ← node false false
  let t ← getToken
  popState
  popMark
  return ⟨.mappingEnd, t.start, t.stop⟩

/-- The value of a flow mapping's key, which may be missing. -/
def flowMappingValue : ParseM Event := do
  if ← checkToken [.value] then
    let t ← getToken
    if !(← checkToken [.flowEntry, .flowMappingEnd]) then
      pushState .flowMappingKey
      node false false
    else
      goTo .flowMappingKey
      return Event.emptyScalar t.stop
  else
    goTo .flowMappingKey
    return Event.emptyScalar (← peekToken).start

def openCollection : ParseM Unit := do
  let t ← getToken
  pushMark t.start

/-- Runs the next step. -/
def step : ParseM Event := do
  match (← get).step with
  | .streamStart => streamStart
  | .implicitDocumentStart => implicitDocumentStart
  | .documentStart => documentStart
  | .documentEnd => documentEnd
  | .documentContent => documentContent
  | .blockNode => node true false
  | .blockSequenceFirstEntry => do
    openCollection
    blockSequenceEntry
  | .blockSequenceEntry => blockSequenceEntry
  | .indentlessSequenceEntry => indentlessSequenceEntry
  | .blockMappingFirstKey => do
    openCollection
    blockMappingKey
  | .blockMappingKey => blockMappingKey
  | .blockMappingValue => blockMappingValue
  | .flowSequenceFirstEntry => do
    openCollection
    flowSequenceEntry true
  | .flowSequenceEntry => flowSequenceEntry false
  | .flowSequenceEntryMappingKey => flowSequenceEntryMappingKey
  | .flowSequenceEntryMappingValue => flowSequenceEntryMappingValue
  | .flowSequenceEntryMappingEnd => flowSequenceEntryMappingEnd
  | .flowMappingFirstKey => do
    openCollection
    flowMappingKey true
  | .flowMappingKey => flowMappingKey false
  | .flowMappingValue => flowMappingValue
  | .flowMappingEmptyValue => do
    goTo .flowMappingKey
    return Event.emptyScalar (← peekToken).start
  | .finished => do
    let t ← peekToken
    return ⟨.streamEnd, t.start, t.stop⟩

/-- The next event, without taking it. -/
def peekEvent : ParseM Event := do
  match (← get).current with
  | some e => return e
  | none =>
    let e ← step
    modify fun p => { p with current := some e }
    return e

def getEvent : ParseM Event := do
  let e ← peekEvent
  modify fun p => { p with current := none }
  return e

end Parse

end DiagnosticCheck.Yaml
