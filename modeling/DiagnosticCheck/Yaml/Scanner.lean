import DiagnosticCheck.Yaml.Scanner.Scalar
import DiagnosticCheck.Yaml.Scanner.Property

/-!
# The scanner

Each step skips blanks, comments and line breaks, closes the block collections that the column
leaves, and reads one token, chosen by the character it starts with. Tokens are handed out one at a
time; while the next one may still turn out to be a simple key, the scanner reads further, since a
key token (and the start of a block mapping) is then put in front of it.
-/

namespace DiagnosticCheck.Yaml

namespace Scan

/-- Skips blanks, comments and line breaks; a break outside flow collections allows a simple key.
A byte order mark at the very start is skipped too. -/
def toNextToken : ScanM Unit := do
  if (← get).pointer = 0 ∧ (← peek) = '\uFEFF' then forward 1
  for _ in [0:(← steps)] do
    skipWhile (· = ' ')
    if (← peek) = '#' then skipWhile (fun c => !isBreakZ c)
    if (← lineBreak) ≠ "" then
      if (← get).flowLevel == 0 then modify fun s => { s with allowSimpleKey := true }
    else break

def allowKey (b : Bool) : ScanM Unit :=
  modify fun s => { s with allowSimpleKey := b }

def indicator (kind : TokenKind) (width : Nat := 1) : ScanM Unit := do
  let start ← mark
  forward width
  push ⟨kind, start, ← mark⟩

/-- The end of the stream: closes every block collection. -/
def streamEnd : ScanM Unit := do
  unwindIndent (-1)
  removeKey
  modify fun s => { s with allowSimpleKey := false, possibleKeys := [] }
  let m ← mark
  push ⟨.streamEnd, m, m⟩
  modify fun s => { s with done := true }

/-- A document marker, `---` or `...`, which closes every block collection. -/
def documentMarker (kind : TokenKind) : ScanM Unit := do
  unwindIndent (-1)
  removeKey
  allowKey false
  indicator kind 3

def flowStart (kind : TokenKind) : ScanM Unit := do
  saveKey
  modify fun s => { s with flowLevel := s.flowLevel + 1, allowSimpleKey := true }
  indicator kind

def flowEnd (kind : TokenKind) : ScanM Unit := do
  removeKey
  modify fun s => { s with flowLevel := s.flowLevel - 1, allowSimpleKey := false }
  indicator kind

def flowEntry : ScanM Unit := do
  allowKey true
  removeKey
  indicator .flowEntry

/-- A `-` entry of a block sequence, which opens the sequence at its column if needed. -/
def blockEntry : ScanM Unit := do
  let s ← get
  if s.flowLevel == 0 then
    if !s.allowSimpleKey then fail none none "sequence entries are not allowed here"
    if ← addIndent s.column then
      let m ← mark
      push ⟨.blockSequenceStart, m, m⟩
  allowKey true
  removeKey
  indicator .blockEntry

/-- A `?` that starts a complex key, which opens a block mapping at its column if needed. -/
def complexKey : ScanM Unit := do
  let s ← get
  if s.flowLevel == 0 then
    if !s.allowSimpleKey then fail none none "mapping keys are not allowed here"
    if ← addIndent s.column then
      let m ← mark
      push ⟨.blockMappingStart, m, m⟩
  allowKey ((← get).flowLevel == 0)
  removeKey
  indicator .key

def insertAt (number : Nat) (t : Token) : ScanM Unit :=
  modify fun s =>
    let i := number - s.tokensTaken
    { s with tokens := (s.tokens.toList.take i ++ t :: s.tokens.toList.drop i).toArray }

/-- A `:`. If a simple key may have started at this flow depth, it becomes a key, opening a block
mapping at its column if needed; otherwise the value belongs to a complex key. -/
def value : ScanM Unit := do
  let s ← get
  match s.possibleKeys.lookup s.flowLevel with
  | some key =>
    set { s with possibleKeys := s.possibleKeys.filter fun (k : Int × SimpleKey) => k.1 != s.flowLevel }
    insertAt key.tokenNumber ⟨.key, key.mark, key.mark⟩
    if (← get).flowLevel == 0 then
      if ← addIndent key.column then
        insertAt key.tokenNumber ⟨.blockMappingStart, key.mark, key.mark⟩
    allowKey false
  | none =>
    if s.flowLevel == 0 then
      if !s.allowSimpleKey then fail none none "mapping values are not allowed here"
      if ← addIndent s.column then
        let m ← mark
        push ⟨.blockMappingStart, m, m⟩
    allowKey ((← get).flowLevel == 0)
    removeKey
  indicator .value

/-- Whether a plain scalar may start here. -/
def startsPlain : ScanM Bool := do
  let ch ← peek
  let next ← peekAt 1
  let flow := (← get).flowLevel != 0
  let indicators := "-?:,[]\x7b\x7d#&*!|>'\"%@".toList
  return !(isBlankZ ch || indicators.contains ch || ch = Char.ofNat 0x60) ||
    (!isBlankZ next && (ch = '-' || (!flow && (ch = '?' || ch = ':'))))

/-- Reads the next token, or fails on a character that starts none. -/
def fetch : ScanM Unit := do
  toNextToken
  dropStaleKeys
  unwindIndent (← get).column
  let ch ← peek
  let s ← get
  let flow := s.flowLevel != 0
  let atLineStart := s.column = 0
  let marker ← ahead 3
  let afterMarker ← peekAt 3
  let next ← peekAt 1
  if ch = '\x00' then streamEnd
  else if ch = '%' ∧ atLineStart then
    unwindIndent (-1)
    removeKey
    allowKey false
    push (← directive)
  else if ch = '-' ∧ atLineStart ∧ marker = "---" ∧ isBlankZ afterMarker then
    documentMarker .documentStart
  else if ch = '.' ∧ atLineStart ∧ marker = "..." ∧ isBlankZ afterMarker then
    documentMarker .documentEnd
  else if ch = '[' then flowStart .flowSequenceStart
  else if ch = '{' then flowStart .flowMappingStart
  else if ch = ']' then flowEnd .flowSequenceEnd
  else if ch = '}' then flowEnd .flowMappingEnd
  else if ch = ',' then flowEntry
  else if ch = '-' ∧ isBlankZ next then blockEntry
  else if ch = '?' ∧ (flow ∨ isBlankZ next) then complexKey
  else if ch = ':' ∧ (flow ∨ isBlankZ next) then value
  else if ch = '*' ∨ ch = '&' then
    saveKey
    allowKey false
    push (← anchorOrAlias (ch = '*'))
  else if ch = '!' then
    saveKey
    allowKey false
    push (← tag)
  else if (ch = '|' ∨ ch = '>') ∧ !flow then
    allowKey true
    removeKey
    push (← block (ch = '>'))
  else if ch = '\'' ∨ ch = '"' then
    saveKey
    allowKey false
    push (← quoted (ch = '"'))
  else if ← startsPlain then
    saveKey
    allowKey false
    push (← plain)
  else
    fail (some "while scanning for the next token") none
      ("found character " ++ Text.cite ch.toString ++ " that cannot start any token")

/-- Whether more tokens must be read before the next one is known: none is pending, or the next
may still become a simple key. -/
def needsMore : ScanM Bool := do
  let s ← get
  if s.done then return false
  if s.tokens.isEmpty then return true
  dropStaleKeys
  let s ← get
  return nextPossibleKey? s == some s.tokensTaken

def fill : ScanM Unit := do
  for _ in [0:(← steps) + 1] do
    if ← needsMore then fetch else break

/-- The next token, if the stream has not ended. -/
def peekToken? : ScanM (Option Token) := do
  fill
  return (← get).tokens[0]?

/-- Takes the next token. -/
def takeToken? : ScanM (Option Token) := do
  fill
  let s ← get
  match s.tokens[0]? with
  | some t =>
    set { s with tokens := s.tokens.extract 1 s.tokens.size, tokensTaken := s.tokensTaken + 1 }
    return some t
  | none => return none

end Scan

end DiagnosticCheck.Yaml
