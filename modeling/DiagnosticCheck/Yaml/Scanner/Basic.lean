import DiagnosticCheck.Yaml.Token

/-!
# The scanner's state

The scanner reads the text one character at a time, keeping its offset, line and column. A line
ends at a line feed, a carriage return not before a line feed, a next-line character or a line or
paragraph separator; a byte order mark takes no column.

Besides the tokens not yet taken, it keeps the indentation of the open block collections, how deep
it is inside flow collections, whether a simple key may start here, and, for each flow depth, the
place where a simple key may have started: a scalar or collection becomes a key only when a `:`
follows it on the same line and within 1024 characters, and one that starts a line at the
indentation of a block mapping must become one.
-/

namespace DiagnosticCheck.Yaml

def isBreak (c : Char) : Bool :=
  c = '\r' || c = '\n' || c = '\x85' || c = '\u2028' || c = '\u2029'

def isBreakZ (c : Char) : Bool :=
  c = '\x00' || isBreak c

def isBlankZ (c : Char) : Bool :=
  c = ' ' || c = '\t' || isBreakZ c

def isSpaceZ (c : Char) : Bool :=
  c = ' ' || isBreakZ c

/-- Whether a character may stand in names of anchors, directives and tag handles: ASCII letters
and digits, `-` and `_`. -/
def isNameChar (c : Char) : Bool :=
  ('0' ≤ c && c ≤ '9') || ('A' ≤ c && c ≤ 'Z') || ('a' ≤ c && c ≤ 'z') || c = '-' || c = '_'

def isHexChar (c : Char) : Bool :=
  ('0' ≤ c && c ≤ '9') || ('A' ≤ c && c ≤ 'F') || ('a' ≤ c && c ≤ 'f')

/-- A place where a simple key may have started. -/
structure SimpleKey where
  tokenNumber : Nat
  required : Bool
  index : Nat
  line : Nat
  column : Nat
  mark : Mark
  deriving Repr

/-- The state of the scanner. -/
structure Scanner where
  pointer : Nat := 0
  line : Nat := 0
  column : Nat := 0
  done : Bool := false
  flowLevel : Int := 0
  tokens : Array Token := #[⟨.streamStart, ⟨0, 0, 0⟩, ⟨0, 0, 0⟩⟩]
  tokensTaken : Nat := 0
  indent : Int := -1
  indents : List Int := []
  allowSimpleKey : Bool := true
  possibleKeys : List (Int × SimpleKey) := []
  deriving Repr

abbrev ScanM := ReaderT (Array Char) (StateT Scanner (Except Error))

namespace Scan

def steps : ScanM Nat := do
  return (← read).size + 1

def peekAt (k : Nat) : ScanM Char := do
  return (← read).getD ((← get).pointer + k) '\x00'

def peek : ScanM Char := peekAt 0

def ahead (n : Nat) : ScanM String := do
  let p := (← get).pointer
  return String.ofList ((← read).extract p (p + n)).toList

def mark : ScanM Mark := do
  let s ← get
  return ⟨s.pointer, s.line, s.column⟩

/-- Moves past one character. -/
def forwardOne : ScanM Unit := do
  let text ← read
  modify fun s =>
    let ch := text.getD s.pointer '\x00'
    let p := s.pointer + 1
    if ch = '\n' ∨ ch = '\x85' ∨ ch = '\u2028' ∨ ch = '\u2029' ∨
        (ch = '\r' ∧ text.getD p '\x00' ≠ '\n') then
      { s with pointer := p, line := s.line + 1, column := 0 }
    else if ch ≠ '\uFEFF' then { s with pointer := p, column := s.column + 1 }
    else { s with pointer := p }

/-- Moves past `n` characters. -/
def forward : Nat → ScanM Unit
  | 0 => pure ()
  | n + 1 => do
    forwardOne
    forward n

/-- The number of characters from `k` places ahead on that satisfy `p`. -/
def countFrom (p : Char → Bool) (k : Nat) : ScanM Nat := do
  let text ← read
  let start := (← get).pointer + k
  let rec go (i : Nat) : Nat → Nat
    | 0 => 0
    | fuel + 1 => if p (text.getD i '\x00') then go (i + 1) fuel + 1 else 0
  return go start (text.size + 1)

def count (p : Char → Bool) : ScanM Nat :=
  countFrom p 0

def skipWhile (p : Char → Bool) : ScanM Unit := do
  forward (← count p)

/-- Takes the characters that satisfy `p`. -/
def takeWhile (p : Char → Bool) : ScanM String := do
  let n ← count p
  let s ← ahead n
  forward n
  return s

/-- Moves past a line break, giving it as a line feed, or as itself for the line and paragraph
separators; gives the empty text if there is none. -/
def lineBreak : ScanM String := do
  let ch ← peek
  if ch = '\r' ∨ ch = '\n' ∨ ch = '\x85' then
    if ch = '\r' ∧ (← peekAt 1) = '\n' then forward 2 else forward 1
    return "\n"
  else if ch = '\u2028' ∨ ch = '\u2029' then
    forward 1
    return ch.toString
  else return ""

def fail {α : Type} (context : Option String) (contextMark : Option Mark) (problem : String) :
    ScanM α := do
  throw (Error.at context contextMark problem (← mark))

def push (t : Token) : ScanM Unit :=
  modify fun s => { s with tokens := s.tokens.push t }

def nextPossibleKey? (s : Scanner) : Option Nat :=
  (s.possibleKeys.map (·.2.tokenNumber)).min?

/-- Whether a possible key can no longer become a key: the line has changed, or it is more than
1024 characters behind. -/
def isStale (s : Scanner) (key : SimpleKey) : Bool :=
  key.line != s.line || s.pointer - key.index > 1024

/-- Forgets the possible keys that can no longer become keys; one that must become a key fails. -/
def dropStaleKeys : ScanM Unit := do
  let s ← get
  for (_, key) in s.possibleKeys do
    if isStale s key && key.required then
      fail (some "while scanning a simple key") (some key.mark) "could not find expected ':'"
  modify fun s => { s with possibleKeys := s.possibleKeys.filter fun (_, key) => !isStale s key }

/-- Forgets the possible key of the current flow depth; one that must become a key fails. -/
def removeKey : ScanM Unit := do
  let s ← get
  match s.possibleKeys.lookup s.flowLevel with
  | some key =>
    if key.required then
      fail (some "while scanning a simple key") (some key.mark) "could not find expected ':'"
    modify fun s => { s with possibleKeys := s.possibleKeys.filter (fun (k : Int × SimpleKey) => k.1 != s.flowLevel) }
  | none => pure ()

/-- Records that a simple key may start here, if one may. In a block collection, a key at its
indentation must become a key. -/
def saveKey : ScanM Unit := do
  let s ← get
  let required := s.flowLevel == 0 && s.indent == (s.column : Int)
  if s.allowSimpleKey then
    removeKey
    let s ← get
    let m ← mark
    let key : SimpleKey := ⟨s.tokensTaken + s.tokens.size, required, s.pointer, s.line, s.column, m⟩
    set { s with possibleKeys := s.possibleKeys.filter (fun (k : Int × SimpleKey) => k.1 != s.flowLevel) ++ [(s.flowLevel, key)] }

/-- Closes the block collections indented deeper than `column`, with a block end for each;
nothing happens inside flow collections. -/
def unwindIndent (column : Int) : ScanM Unit := do
  if (← get).flowLevel != 0 then return
  let m ← mark
  let rec go : Nat → ScanM Unit
    | 0 => pure ()
    | fuel + 1 => do
      let s ← get
      if s.indent > column then
        match s.indents with
        | i :: rest =>
          set { s with indent := i, indents := rest, tokens := s.tokens.push ⟨.blockEnd, m, m⟩ }
          go fuel
        | [] => pure ()
      else pure ()
  go ((← get).indents.length + 1)

/-- Opens a block collection at `column` if it is indented deeper than the current one. -/
def addIndent (column : Int) : ScanM Bool := do
  let s ← get
  if s.indent < column then
    set { s with indents := s.indent :: s.indents, indent := column }
    return true
  else return false

end Scan

end DiagnosticCheck.Yaml
