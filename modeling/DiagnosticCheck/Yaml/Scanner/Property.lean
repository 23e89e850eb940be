import DiagnosticCheck.Yaml.Scanner.Basic
import DiagnosticCheck.Text.Utf8

/-!
# Directives, anchors and tags

A directive starts a line with `%`: `%YAML` gives a version, `%TAG` a handle and a prefix, and any
other directive is skipped to the end of its line. Anchors (`&`) and aliases (`*`) are names of
ASCII letters, digits, `-` and `_`. A tag is verbatim (`!<uri>`), a lone `!`, or a handle
(`!`, `!!` or `!name!`) followed by a suffix; URIs may hold `%` escapes of UTF-8 bytes.
-/

namespace DiagnosticCheck.Yaml

namespace Scan

/-- The name of a directive. -/
def directiveName (start : Mark) : ScanM String := do
  let context := some "while scanning a directive"
  let n ← count isNameChar
  if n = 0 then
    fail context (some start)
      ("expected alphabetic or numeric character, but found " ++ Text.cite (← peek).toString)
  let name ← ahead n
  forward n
  let c ← peek
  if !isSpaceZ c then
    fail context (some start)
      ("expected alphabetic or numeric character, but found " ++ Text.cite c.toString)
  return name

/-- A number of a `%YAML` directive. -/
def versionNumber (start : Mark) : ScanM Nat := do
  let c ← peek
  if !c.isDigit then
    fail (some "while scanning a directive") (some start)
      ("expected a digit, but found " ++ Text.cite c.toString)
  let digits ← takeWhile Char.isDigit
  return digits.toList.foldl (fun n d => n * 10 + (d.toNat - 48)) 0

/-- The version of a `%YAML` directive. -/
def versionValue (start : Mark) : ScanM DirectiveValue := do
  skipWhile (· = ' ')
  let major ← versionNumber start
  if (← peek) ≠ '.' then
    fail (some "while scanning a directive") (some start)
      ("expected a digit or '.', but found " ++ Text.cite (← peek).toString)
  forward 1
  let minor ← versionNumber start
  if !isSpaceZ (← peek) then
    fail (some "while scanning a directive") (some start)
      ("expected a digit or ' ', but found " ++ Text.cite (← peek).toString)
  return .version major minor

/-- A tag handle: `!`, `!!` or `!name!`. -/
def tagHandle (what : String) (start : Mark) : ScanM String := do
  let context := some ("while scanning a " ++ what)
  let c ← peek
  if c ≠ '!' then
    fail context (some start) ("expected '!', but found " ++ Text.cite c.toString)
  let mut n := 1
  let c ← peekAt 1
  if c ≠ ' ' then
    n := 1 + (← countFrom isNameChar 1)
    let c ← peekAt n
    if c ≠ '!' then
      forward n
      fail context (some start) ("expected '!', but found " ++ Text.cite c.toString)
    n := n + 1
  let handle ← ahead n
  forward n
  return handle

/-- The characters that `%` escapes of UTF-8 bytes stand for. -/
def uriEscapes (what : String) (start : Mark) : ScanM String := do
  let context := some ("while scanning a " ++ what)
  let m ← mark
  let mut codes : List Nat := []
  for _ in [0:(← steps)] do
    if (← peek) ≠ '%' then break
    forward 1
    for k in [0:2] do
      let d ← peekAt k
      if !isHexChar d then
        fail context (some start)
          ("expected URI escape sequence of 2 hexadecimal numbers, but found " ++
            Text.cite d.toString)
    let hex ← ahead 2
    codes := codes ++ [hex.toList.foldl (fun n c =>
      n * 16 + (if c.isDigit then c.toNat - 48 else if c ≤ 'F' then c.toNat - 55 else c.toNat - 87)) 0]
    forward 2
  match Text.decodeUtf8 codes with
  | .ok s => return s
  | .error e => throw (Error.at context (some start) e.message m)

def isUriChar (c : Char) : Bool :=
  isNameChar c || "-;/?:@&=+$,_.!~*'()[]%".toList.contains c

/-- A tag URI, with its escapes decoded. -/
def tagUri (what : String) (start : Mark) : ScanM String := do
  let mut chunks : List String := []
  for _ in [0:(← steps)] do
    let n ← count (fun c => isUriChar c && c ≠ '%')
    if n > 0 then
      chunks := chunks ++ [← ahead n]
      forward n
    if (← peek) = '%' then
      chunks := chunks ++ [← uriEscapes what start]
    else break
  if chunks.isEmpty then
    fail (some ("while parsing a " ++ what)) (some start)
      ("expected URI, but found " ++ Text.cite (← peek).toString)
  return String.join chunks

/-- The handle and prefix of a `%TAG` directive. -/
def tagDirectiveValue (start : Mark) : ScanM DirectiveValue := do
  skipWhile (· = ' ')
  let handle ← tagHandle "directive" start
  if (← peek) ≠ ' ' then
    fail (some "while scanning a directive") (some start)
      ("expected ' ', but found " ++ Text.cite (← peek).toString)
  skipWhile (· = ' ')
  let pfx ← tagUri "directive" start
  if !isSpaceZ (← peek) then
    fail (some "while scanning a directive") (some start)
      ("expected ' ', but found " ++ Text.cite (← peek).toString)
  return .tag handle pfx

/-- A directive and the rest of its line, which may hold only blanks and a comment. -/
def directive : ScanM Token := do
  let start ← mark
  forward 1
  let name ← directiveName start
  let (value, stop) ← if name = "YAML" then do
      let v ← versionValue start
      pure (v, ← mark)
    else if name = "TAG" then do
      let v ← tagDirectiveValue start
      pure (v, ← mark)
    else do
      let m ← mark
      skipWhile (fun c => !isBreakZ c)
      pure (DirectiveValue.none, m)
  skipWhile (· = ' ')
  if (← peek) = '#' then skipWhile (fun c => !isBreakZ c)
  let c ← peek
  if !isBreakZ c then
    fail (some "while scanning a directive") (some start)
      ("expected a comment or a line break, but found " ++ Text.cite c.toString)
  let _ ← lineBreak
  return ⟨.directive name value, start, stop⟩

/-- An anchor (`&name`) or an alias (`*name`). -/
def anchorOrAlias (isAlias : Bool) : ScanM Token := do
  let start ← mark
  let context := some (if isAlias then "while scanning an alias" else "while scanning an anchor")
  forward 1
  let n ← count isNameChar
  if n = 0 then
    fail context (some start)
      ("expected alphabetic or numeric character, but found " ++ Text.cite (← peek).toString)
  let name ← ahead n
  forward n
  let c ← peek
  if !(isBlankZ c || "?:,]\x7d%@".toList.contains c || c = Char.ofNat 0x60) then
    fail context (some start)
      ("expected alphabetic or numeric character, but found " ++ Text.cite c.toString)
  let stop ← mark
  return ⟨if isAlias then .alias name else .anchor name, start, stop⟩

/-- A tag. -/
def tag : ScanM Token := do
  let start ← mark
  let c ← peekAt 1
  let (handle, suffix) ← if c = '<' then do
      forward 2
      let suffix ← tagUri "tag" start
      if (← peek) ≠ '>' then
        fail (some "while parsing a tag") (some start)
          ("expected '>', but found " ++ Text.cite (← peek).toString)
      forward 1
      pure (none, suffix)
    else if isBlankZ c then do
      forward 1
      pure (none, "!")
    else do
      -- a second `!` before the next blank makes the text up to it a handle
      let n ← countFrom (fun c => !isSpaceZ c && c ≠ '!') 1
      let handle ← if (← peekAt (n + 1)) = '!' then tagHandle "tag" start
        else do
          forward 1
          pure "!"
      let suffix ← tagUri "tag" start
      pure (some handle, suffix)
  let c ← peek
  if !isSpaceZ c then
    fail (some "while scanning a tag") (some start) ("expected ' ', but found " ++ Text.cite c.toString)
  let stop ← mark
  return ⟨.tag handle suffix, start, stop⟩

end Scan

end DiagnosticCheck.Yaml
