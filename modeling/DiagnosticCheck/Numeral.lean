import DiagnosticCheck.Data
import DiagnosticCheck.Text.Unicode.Space
import DiagnosticCheck.Text.Unicode.Decimal

/-!
# Numerals

Integers and floating-point numbers read from text the way the standard conversions read them.
Before reading, decimal digits of every script count as ASCII digits and Unicode whitespace as a
space; any other character outside ASCII makes the text no numeral. Blanks may surround the
numeral, and single underscores may stand between digits.

An integer in base 2, 8, 10 or 16 has an optional sign, for bases 2, 8 and 16 an optional `0b`,
`0o` or `0x` prefix (an underscore may follow it), and at least one digit. A decimal numeral of
more than 4300 digits is refused for its length. A floating-point numeral has an optional sign and
is `inf`, `infinity` or `nan` in any case, or digits with an optional point (at least one digit on
some side of it) and an optional exponent.
-/

namespace DiagnosticCheck.Numeral

/-- The character a numeral reads in place of `c`: itself within ASCII, a space for whitespace, an
ASCII digit for a decimal digit, and nothing for any other character. -/
def asciiChar? (c : Char) : Option Char :=
  let n := c.toNat
  if n < 127 then some c
  else if Text.Unicode.isSpaceCode n then some ' '
  else if Text.Unicode.isDecimal n then some (Char.ofNat (48 + Text.Unicode.decimalValue n))
  else none

def asciiForm? (s : String) : Option (List Char) :=
  s.toList.mapM asciiChar?

/-- The blanks that may surround a numeral: space, tab, line feed, vertical tab, form feed and
carriage return. -/
def isBlank (c : Char) : Bool :=
  c = ' ' || ('\t' ≤ c && c ≤ '\r')

/-- The value of a digit in bases up to 36; 36 for a character that is no digit. -/
def digitValue (c : Char) : Nat :=
  if '0' ≤ c ∧ c ≤ '9' then c.toNat - 48
  else if 'a' ≤ c ∧ c ≤ 'z' then c.toNat - 87
  else if 'A' ≤ c ∧ c ≤ 'Z' then c.toNat - 55
  else 36

/-- A run of digits in a base with single underscores between them. -/
structure DigitRun where
  value : Nat
  count : Nat
  misplaced : Bool
  rest : List Char

/-- Reads digits and underscores from the front; `prev` tells whether the last character read was
an underscore. -/
def digitRun (base : Nat) (acc count : Nat) (prev : Bool) : List Char → DigitRun
  | [] => ⟨acc, count, prev, []⟩
  | c :: cs =>
    if c = '_' then
      if prev then ⟨acc, count, true, c :: cs⟩ else digitRun base acc count true cs
    else if digitValue c < base then digitRun base (acc * base + digitValue c) (count + 1) false cs
    else ⟨acc, count, prev, c :: cs⟩

def maxDecimalDigits : Nat := 4300

/-- Why a text is no integer. -/
inductive IntFault where
  | invalid
  | tooLong (digits : Nat)
  deriving Repr, DecidableEq

/-- The message of a text that is no integer in a base. -/
def IntFault.message (base : Nat) (s : String) : IntFault → String
  | .invalid => "invalid literal for int() with base " ++ toString base ++ ": " ++
      String.ofList ((Text.cite s).toList.take 200)
  | .tooLong n => "Exceeds the limit (4300 digits) for integer string conversion: value has " ++
      toString n ++ " digits; use sys.set_int_max_str_digits() to increase the limit"

/-- Whether the characters start with the prefix that may open a numeral in a base. -/
def prefixed (base : Nat) : List Char → Bool
  | '0' :: p :: _ =>
    (base = 16 && (p = 'x' || p = 'X')) || (base = 8 && (p = 'o' || p = 'O')) ||
      (base = 2 && (p = 'b' || p = 'B'))
  | _ => false

/-- The integer a text writes in base 2, 8, 10 or 16. -/
def intIn (base : Nat) (s : String) : Except IntFault Int := do
  let some cs := asciiForm? s | throw .invalid
  let cs := cs.dropWhile isBlank
  let (neg, cs) := match cs with
    | '-' :: r => (true, r)
    | '+' :: r => (false, r)
    | r => (false, r)
  let cs := if prefixed base cs then
      match cs.drop 2 with
      | '_' :: r => r
      | r => r
    else cs
  if cs.head? = some '_' then throw .invalid
  let run := digitRun base 0 0 false cs
  if run.misplaced then throw .invalid
  if base = 10 ∧ run.count > maxDecimalDigits then throw (.tooLong run.count)
  if run.count = 0 then throw .invalid
  if !(run.rest.all isBlank) then throw .invalid
  return if neg then -(run.value : Int) else run.value

/-- Whether the underscores of a numeral each stand between two digits. -/
def underscoresPlaced : List Char → Bool
  | [] => true
  | '_' :: _ => false
  | [_] => true
  | a :: '_' :: b :: rest => a.isDigit && b.isDigit && underscoresPlaced (b :: rest)
  | [_, '_'] => false
  | _ :: b :: rest => underscoresPlaced (b :: rest)

/-- Reads an optionally signed run of ASCII digits, the whole of `cs`. -/
def exponentOf? (cs : List Char) : Option Int :=
  let (neg, ds) := match cs with
    | '-' :: r => (true, r)
    | '+' :: r => (false, r)
    | r => (false, r)
  if ds.isEmpty || !ds.all Char.isDigit then none
  else
    let v : Int := ds.foldl (fun n c => n * 10 + (c.toNat - 48)) 0
    some (if neg then -v else v)

/-- The decimal `m × 10 ^ e` that an unsigned numeral writes: digits with an optional point and an
optional exponent, the whole of `cs`. -/
def unsignedDecimal? (cs : List Char) : Option (Nat × Int) := do
  let whole := cs.takeWhile Char.isDigit
  let rest := cs.drop whole.length
  let (frac, rest) := match rest with
    | '.' :: r => (r.takeWhile Char.isDigit, r.dropWhile Char.isDigit)
    | r => ([], r)
  guard (!(whole.isEmpty && frac.isEmpty))
  let exp : Int ← match rest with
    | [] => some 0
    | e :: r => if e = 'e' || e = 'E' then exponentOf? r else none
  let m : Nat := (whole ++ frac).foldl (fun n c => n * 10 + (c.toNat - 48)) 0
  return (m, exp - frac.length)

/-- The floating-point number a text writes, if it writes one. -/
def floatOf? (s : String) : Option Floating := do
  let cs ← asciiForm? s
  let cs ← if cs.contains '_' then
      if underscoresPlaced cs then some (cs.filter (· ≠ '_')) else none
    else some cs
  let cs := ((cs.dropWhile isBlank).reverse.dropWhile isBlank).reverse
  let (neg, body) := match cs with
    | '-' :: r => (true, r)
    | '+' :: r => (false, r)
    | r => (false, r)
  let word := body.map Char.toLower
  if word = "inf".toList || word = "infinity".toList then return .infinity neg
  if word = "nan".toList then return .nan
  let (m, e) ← unsignedDecimal? body
  return Floating.ofDecimal neg m e

example : intIn 16 " 0x_1f " = .ok 31 := by rfl
example : floatOf? " -Infinity " = some (.infinity true) := by rfl

end DiagnosticCheck.Numeral
