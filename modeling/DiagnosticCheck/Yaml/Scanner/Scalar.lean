import DiagnosticCheck.Yaml.Scanner.Basic

/-!
# Scalars

The three ways to write a scalar. A quoted scalar runs to its closing quote: single-quoted ones
double a quote to write it, double-quoted ones have backslash escapes; a line break inside folds to
a blank, or to the breaks themselves when blank lines follow, and a document marker at the start of
a line is refused. A plain scalar runs to a `: `, a comment or, in flow collections, an indicator,
and continues on following lines indented deeper than the enclosing block. A block scalar (`|`
keeps line breaks, `>` folds them) takes the lines indented at least as deep as its first
non-empty line, with its trailing breaks kept, dropped or reduced to one as its header says.
-/

namespace DiagnosticCheck.Yaml

namespace Scan

/-- The character a backslash and one letter stand for in a double-quoted scalar. -/
def escapeReplacement : Char → Option Char
  | '0' => some '\x00'
  | 'a' => some '\x07'
  | 'b' => some '\x08'
  | 't' => some '\t'
  | '\t' => some '\t'
  | 'n' => some '\n'
  | 'v' => some '\x0b'
  | 'f' => some '\x0c'
  | 'r' => some '\r'
  | 'e' => some '\x1b'
  | ' ' => some ' '
  | '"' => some '"'
  | '\\' => some '\\'
  | '/' => some '/'
  | 'N' => some '\x85'
  | '_' => some '\xa0'
  | 'L' => some '\u2028'
  | 'P' => some '\u2029'
  | _ => none

/-- The number of hexadecimal digits after `\x`, `\u` and `\U`. -/
def escapeWidth : Char → Option Nat
  | 'x' => some 2
  | 'u' => some 4
  | 'U' => some 8
  | _ => none

def hexValue (s : String) : Nat :=
  s.toList.foldl (fun n c =>
    n * 16 + (if c.isDigit then c.toNat - 48 else if c ≤ 'F' then c.toNat - 55 else c.toNat - 87)) 0

/-- Line breaks inside a quoted scalar, with the blanks that indent the following lines; a
document marker at the start of a line fails. -/
def quotedBreaks (start : Mark) : ScanM (List String) := do
  let mut chunks : List String := []
  for _ in [0:(← steps)] do
    let pre ← ahead 3
    if (pre = "---" ∨ pre = "...") ∧ isBlankZ (← peekAt 3) then
      fail (some "while scanning a quoted scalar") (some start) "found unexpected document separator"
    skipWhile (fun c => c = ' ' ∨ c = '\t')
    if isBreak (← peek) then
      chunks := chunks ++ [← lineBreak]
    else break
  return chunks

/-- The characters of a quoted scalar up to the next blank or break, escapes decoded. -/
def quotedRun (double : Bool) (start : Mark) : ScanM (List String) := do
  let mut chunks : List String := []
  for _ in [0:(← steps)] do
    let plainText ← takeWhile fun c => !(c = '\'' ∨ c = '"' ∨ c = '\\' ∨ isBlankZ c)
    if plainText ≠ "" then chunks := chunks ++ [plainText]
    let ch ← peek
    if !double ∧ ch = '\'' ∧ (← peekAt 1) = '\'' then
      chunks := chunks ++ ["'"]
      forward 2
    else if (double ∧ ch = '\'') ∨ (!double ∧ (ch = '"' ∨ ch = '\\')) then
      chunks := chunks ++ [ch.toString]
      forward 1
    else if double ∧ ch = '\\' then
      forward 1
      let e ← peek
      match escapeReplacement e with
      | some r =>
        chunks := chunks ++ [r.toString]
        forward 1
      | none =>
        match escapeWidth e with
        | some width =>
          forward 1
          for k in [0:width] do
            let d ← peekAt k
            if !isHexChar d then
              fail (some "while scanning a double-quoted scalar") (some start)
                ("expected escape sequence of " ++ toString width ++
                  " hexadecimal numbers, but found " ++ Text.cite d.toString)
          let code := hexValue (← ahead width)
          if code > 0x10FFFF then throw (.badValue .value "chr() arg not in range(0x110000)")
          chunks := chunks ++ [(Text.ofCodePoint code).toString]
          forward width
        | none =>
          if isBreak e then
            let _ ← lineBreak
            chunks := chunks ++ (← quotedBreaks start)
          else
            fail (some "while scanning a double-quoted scalar") (some start)
              ("found unknown escape character " ++ Text.cite e.toString)
    else break
  return chunks

/-- Blanks and line breaks inside a quoted scalar: blanks are kept; a break becomes a blank, or
disappears before further breaks, which are kept. -/
def quotedSpaces (start : Mark) : ScanM (List String) := do
  let blanks ← takeWhile fun c => c = ' ' ∨ c = '\t'
  let ch ← peek
  if ch = '\x00' then
    fail (some "while scanning a quoted scalar") (some start) "found unexpected end of stream"
  else if isBreak ch then
    let first ← lineBreak
    let more ← quotedBreaks start
    let joint := if first ≠ "\n" then [first] else if more.isEmpty then [" "] else []
    return joint ++ more
  else return [blanks]

/-- A single- or double-quoted scalar. -/
def quoted (double : Bool) : ScanM Token := do
  let start ← mark
  let q ← peek
  forward 1
  let mut chunks ← quotedRun double start
  for _ in [0:(← steps)] do
    if (← peek) = q then break
    chunks := chunks ++ (← quotedSpaces start)
    chunks := chunks ++ (← quotedRun double start)
  forward 1
  let stop ← mark
  return ⟨.scalar (String.join chunks) false (some (if double then '"' else '\'')), start, stop⟩

def atDocumentMarker : ScanM Bool := do
  let pre ← ahead 3
  return (pre = "---" ∨ pre = "...") ∧ isBlankZ (← peekAt 3)

/-- Blanks and line breaks after a run of a plain scalar: the blanks, or for breaks a blank, or
the breaks after the first; nothing where the scalar must end. -/
def plainSpaces : ScanM (List String) := do
  let blanks ← takeWhile (· = ' ')
  if isBreak (← peek) then
    let first ← lineBreak
    modify fun s => { s with allowSimpleKey := true }
    if ← atDocumentMarker then return []
    let mut more : List String := []
    for _ in [0:(← steps)] do
      let c ← peek
      if c = ' ' then forward 1
      else if isBreak c then
        more := more ++ [← lineBreak]
        if ← atDocumentMarker then return []
      else break
    let joint := if first ≠ "\n" then [first] else if more.isEmpty then [" "] else []
    return joint ++ more
  else if blanks ≠ "" then return [blanks]
  else return []

/-- The length of the run of a plain scalar from here: up to a blank, a `:` before a blank, or in
flow collections an indicator or a `:` before one. -/
def plainRunLength (flow : Bool) : ScanM Nat := do
  let text ← read
  let start := (← get).pointer
  let isFlowIndicator := fun (c : Char) => c = ',' ∨ c = '[' ∨ c = ']' ∨ c = '{' ∨ c = '}'
  let stops := fun (i : Nat) =>
    let ch := text.getD i '\x00'
    let next := text.getD (i + 1) '\x00'
    isBlankZ ch || (ch = ':' && (isBlankZ next || (flow && isFlowIndicator next))) ||
      (flow && (ch = '?' || isFlowIndicator ch))
  let rec go (i : Nat) : Nat → Nat
    | 0 => 0
    | fuel + 1 => if stops i then 0 else go (i + 1) fuel + 1
  return go start (text.size + 1)

/-- A plain scalar. -/
def plain : ScanM Token := do
  let start ← mark
  let indent := (← get).indent + 1
  let mut chunks : List String := []
  let mut spaces : List String := []
  let mut stop := start
  for _ in [0:(← steps)] do
    if (← peek) = '#' then break
    let flow := (← get).flowLevel != 0
    let n ← plainRunLength flow
    if n = 0 then break
    modify fun s => { s with allowSimpleKey := false }
    chunks := chunks ++ spaces ++ [← ahead n]
    forward n
    stop ← mark
    spaces ← plainSpaces
    let s ← get
    if spaces.isEmpty ∨ (← peek) = '#' ∨ (s.flowLevel == 0 ∧ (s.column : Int) < indent) then break
  return ⟨.scalar (String.join chunks) true none, start, stop⟩

/-- The header of a block scalar: its chomping (`+` keeps trailing breaks, `-` drops them) and its
indentation indicator, in either order. -/
def blockHeader (start : Mark) : ScanM (Option Bool × Option Nat) := do
  let context := some "while scanning a block scalar"
  let zero := "expected indentation indicator in the range 1-9, but found 0"
  let mut chomping : Option Bool := none
  let mut increment : Option Nat := none
  let ch ← peek
  if ch = '+' ∨ ch = '-' then
    chomping := some (ch = '+')
    forward 1
    let d ← peek
    if d.isDigit then
      if d = '0' then fail context (some start) zero
      increment := some (d.toNat - 48)
      forward 1
  else if ch.isDigit then
    if ch = '0' then fail context (some start) zero
    increment := some (ch.toNat - 48)
    forward 1
    let c ← peek
    if c = '+' ∨ c = '-' then
      chomping := some (c = '+')
      forward 1
  let c ← peek
  if !isSpaceZ c then
    fail context (some start)
      ("expected chomping or indentation indicators, but found " ++ Text.cite c.toString)
  return (chomping, increment)

/-- The rest of a block scalar's header line: blanks and a comment. -/
def blockHeaderEnd (start : Mark) : ScanM Unit := do
  skipWhile (· = ' ')
  if (← peek) = '#' then skipWhile (fun c => !isBreakZ c)
  let c ← peek
  if !isBreakZ c then
    fail (some "while scanning a block scalar") (some start)
      ("expected a comment or a line break, but found " ++ Text.cite c.toString)
  let _ ← lineBreak

/-- The empty lines before a block scalar's first line, the deepest indentation among them, and
the mark after the last break. -/
def blockIndentation : ScanM (List String × Nat × Mark) := do
  let mut chunks : List String := []
  let mut deepest := 0
  let mut stop ← mark
  for _ in [0:(← steps)] do
    let c ← peek
    if c = ' ' then
      forward 1
      let col := (← get).column
      if col > deepest then deepest := col
    else if isBreak c then
      chunks := chunks ++ [← lineBreak]
      stop ← mark
    else break
  return (chunks, deepest, stop)

/-- Line breaks inside a block scalar, skipping the indentation of each following line up to
`indent`, and the mark after the last break. -/
def blockBreaks (indent : Int) : ScanM (List String × Mark) := do
  let mut chunks : List String := []
  let mut stop ← mark
  let skipIndent : ScanM Unit := do
    for _ in [0:(← steps)] do
      if ((← get).column : Int) < indent ∧ (← peek) = ' ' then forward 1 else break
  skipIndent
  for _ in [0:(← steps)] do
    if isBreak (← peek) then
      chunks := chunks ++ [← lineBreak]
      stop ← mark
      skipIndent
    else break
  return (chunks, stop)

/-- A literal (`|`) or folded (`>`) block scalar. Folding joins lines that do not start with a
blank by a blank, where no empty line stands between them. -/
def block (folded : Bool) : ScanM Token := do
  let start ← mark
  forward 1
  let (chomping, increment) ← blockHeader start
  blockHeaderEnd start
  let minIndent : Int := max ((← get).indent + 1) 1
  let (first, indent, firstStop) ← match increment with
    | none => do
      let (chunks, deepest, stop) ← blockIndentation
      pure (chunks, max minIndent (deepest : Int), stop)
    | some k => do
      let indent := minIndent + k - 1
      let (chunks, stop) ← blockBreaks indent
      pure (chunks, indent, stop)
  let mut breaks := first
  let mut stop := firstStop
  let mut chunks : List String := []
  let mut lastBreak := ""
  for _ in [0:(← steps)] do
    if !(((← get).column : Int) = indent ∧ (← peek) ≠ '\x00') then break
    chunks := chunks ++ breaks
    let leadingNonSpace := !((← peek) = ' ' ∨ (← peek) = '\t')
    chunks := chunks ++ [← takeWhile (fun c => !isBreakZ c)]
    lastBreak ← lineBreak
    let (bs, st) ← blockBreaks indent
    breaks := bs
    stop := st
    if ((← get).column : Int) = indent ∧ (← peek) ≠ '\x00' then
      let c ← peek
      if folded ∧ lastBreak = "\n" ∧ leadingNonSpace ∧ !(c = ' ' ∨ c = '\t') then
        if breaks.isEmpty then chunks := chunks ++ [" "]
      else chunks := chunks ++ [lastBreak]
    else break
  if chomping ≠ some false then chunks := chunks ++ [lastBreak]
  if chomping = some true then chunks := chunks ++ breaks
  return ⟨.scalar (String.join chunks) false (some (if folded then '>' else '|')), start, stop⟩

end Scan

end DiagnosticCheck.Yaml
