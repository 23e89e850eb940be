import DiagnosticCheck.Text.Escape
import DiagnosticCheck.Text.Cite
import DiagnosticCheck.Text.Basic

/-!
# String literals

An annotation writes its pattern as a string literal: between double quotes with backslash
escapes, between backquotes as raw text, or between single quotes as exactly one character.
Decoding checks the outer shape first, then the escapes from left to right, and names the first
fault it meets. Quoting writes the double-quoted form, or the raw form where the text allows it.
-/

namespace DiagnosticCheck

def backquote : Char := Char.ofNat 0x60

/-- The byte order mark, which a raw literal may not hold. -/
def byteOrderMark : Char := Char.ofNat 0xFEFF

/-- Why a text is not a string literal. -/
inductive LiteralError where
  | invalidSyntax (literal : String)
  | unescapedQuote (quote : Char)
  | endsInsideEscape
  | escapeNotAllowed (letter quote : Char)
  | invalidHexEscape (letter : Char)
  | invalidCodePoint (letter : Char)
  | invalidOctalEscape
  | octalOutOfRange
  | unknownEscape (letter : Char)
  deriving Repr, DecidableEq

/-- The text of a literal error. -/
def LiteralError.message : LiteralError → String
  | .invalidSyntax t => "invalid syntax: " ++ Text.cite t
  | .unescapedQuote q => "unescaped " ++ q.toString ++ " inside literal"
  | .endsInsideEscape => "literal ends inside an escape sequence"
  | .escapeNotAllowed c q =>
    "escape \\" ++ c.toString ++ " not allowed inside " ++ q.toString ++ " literal"
  | .invalidHexEscape c => "invalid \\" ++ c.toString ++ " escape"
  | .invalidCodePoint c => "invalid code point in \\" ++ c.toString ++ " escape"
  | .invalidOctalEscape => "invalid octal escape"
  | .octalOutOfRange => "octal escape out of range"
  | .unknownEscape c => "unknown escape sequence \\" ++ c.toString

namespace Literal

/-- The characters that a backslash and one letter stand for. -/
def simpleEscape : Char → Option Char
  | 'a' => some '\x07'
  | 'b' => some '\x08'
  | 'f' => some '\x0c'
  | 'n' => some '\n'
  | 'r' => some '\r'
  | 't' => some '\t'
  | 'v' => some '\x0b'
  | '\\' => some '\\'
  | '\'' => some '\''
  | '"' => some '"'
  | _ => none

/-- The number of hexadecimal digits after `\x`, `\u` and `\U`. -/
def hexWidth : Char → Option Nat
  | 'x' => some 2
  | 'u' => some 4
  | 'U' => some 8
  | _ => none

/-- Whether a code point is a surrogate, which no character can be. -/
def isSurrogate (n : Nat) : Bool :=
  0xD800 ≤ n && n ≤ 0xDFFF

/-- Decodes the escape whose letter `e` follows a backslash inside a `q` literal, given the
characters after the letter: the character it stands for and how many of those it uses. -/
def decodeEscape (q e : Char) (more : List Char) : Except LiteralError (Char × Nat) :=
  match simpleEscape e with
  | some v =>
    if (e = '\'' ∧ q = '"') ∨ (e = '"' ∧ q = '\'') then .error (.escapeNotAllowed e q)
    else .ok (v, 0)
  | none =>
    match hexWidth e with
    | some w =>
      let ds := more.take w
      match Text.hexNumber ds with
      | none => .error (.invalidHexEscape e)
      | some v =>
        if ds.length ≠ w then .error (.invalidHexEscape e)
        else if e ≠ 'x' ∧ (v > 0x10FFFF ∨ isSurrogate v) then .error (.invalidCodePoint e)
        else .ok (Char.ofNat v, w)
    | none =>
      if Text.isOctalDigit e then
        let ds := e :: more.take 2
        if ds.length ≠ 3 ∨ !ds.all Text.isOctalDigit then .error .invalidOctalEscape
        else if Text.octalNumber ds > 0xFF then .error .octalOutOfRange
        else .ok (Char.ofNat (Text.octalNumber ds), 2)
      else .error (.unknownEscape e)

/-- Decodes the body of a `q` literal, escapes and all. -/
def decodeBody (q : Char) : List Char → Except LiteralError (List Char)
  | [] => .ok []
  | c :: rest =>
    if c = q then .error (.unescapedQuote q)
    else if c ≠ '\\' then (decodeBody q rest).map (c :: ·)
    else
      match rest with
      | [] => .error .endsInsideEscape
      | e :: more =>
        match decodeEscape q e more with
        | .error err => .error err
        | .ok (v, n) => (decodeBody q (more.drop n)).map (v :: ·)
termination_by cs => cs.length
decreasing_by
  all_goals simp only [List.length_cons, List.length_drop]
  all_goals omega

/-- The enclosing quote and the body of a literal, when its first and last characters are the
same quote character and it has at least two characters. -/
def shape (cs : List Char) : Option (Char × List Char) :=
  match cs with
  | [] => none
  | q :: rest =>
    match rest.getLast? with
    | none => none
    | some l =>
      if l = q ∧ (q = '"' ∨ q = '\'' ∨ q = backquote) then some (q, rest.dropLast) else none

/-- The value of a string literal. Raw literals drop every carriage return; a single-quoted
literal must stand for exactly one character. -/
def decode (text : String) : Except LiteralError String :=
  match shape text.toList with
  | none => .error (.invalidSyntax text)
  | some (q, body) =>
    if q = backquote then
      if body.contains backquote then .error (.invalidSyntax text)
      else .ok (String.ofList (body.filter (· ≠ '\r')))
    else if body.contains '\n' then .error (.invalidSyntax text)
    else
      match decodeBody q body with
      | .error e => .error e
      | .ok v => if q = '\'' ∧ v.length ≠ 1 then .error (.invalidSyntax text) else .ok (String.ofList v)

/-- The escapes of double-quoted literals: named escapes for the seven control characters with
letters, the backslash and the double quote; `\xHH` below `0x80`. -/
def style : Text.EscapeStyle where
  named c :=
    if c = '\x07' then some 'a'
    else if c = '\x08' then some 'b'
    else if c = '\x0c' then some 'f'
    else if c = '\n' then some 'n'
    else if c = '\r' then some 'r'
    else if c = '\t' then some 't'
    else if c = '\x0b' then some 'v'
    else if c = '\\' then some '\\'
    else if c = '"' then some '"'
    else none
  shortBelow := 0x80

def quote (s : String) : String :=
  String.ofList ('"' :: style.escapeAll s.toList ++ ['"'])

/-- Whether a character may stand in a raw literal: the tab and the characters from the space on,
except the delete character, the backquote and the byte order mark. -/
def rawAllowed (c : Char) : Bool :=
  c ≠ backquote && c ≠ byteOrderMark && (c = '\t' || (0x20 ≤ c.toNat && c.toNat ≠ 0x7F))

def canRaw (s : String) : Bool :=
  s.toList.all rawAllowed

def quoteRaw (s : String) : String :=
  if canRaw s then String.ofList (backquote :: s.toList ++ [backquote]) else quote s

def quoteList (items : List String) : String :=
  "[" ++ " ".intercalate (items.map quote) ++ "]"

example : decode "\"a\\tb\"" = .ok "a\tb" := by cbv
example : decode "'ab'" = .error (.invalidSyntax "'ab'") := by cbv
example : quote "tab\there" = "\"tab\\there\"" := by decide

end Literal

end DiagnosticCheck
