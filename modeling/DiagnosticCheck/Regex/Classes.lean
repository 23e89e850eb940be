import DiagnosticCheck.Regex.Syntax
import DiagnosticCheck.Text.Unicode.Space
import DiagnosticCheck.Text.Unicode.Numeric
import DiagnosticCheck.Text.Unicode.Decimal
import DiagnosticCheck.Text.Unicode.Case

/-!
# Character tests of patterns

How a pattern tests one character, under the flags in force. Character classes follow Unicode
unless the ASCII flag is set. A case-insensitive pattern compares lowercase forms: a cased
character of the pattern matches every character with the same lowercase form, or with one of
the few extra forms that share it through a third character. A case-insensitive set compares the
lowercase form of the text's character with the lowercase forms of its members below `0x10000`;
members above that are compared as written, and ranges that reach above it also accept a
character whose lowercase form's uppercase form falls inside them.
-/

namespace DiagnosticCheck.Regex

open Text.Unicode

/-- The character tests that the flags in force select. -/
structure Mode where
  ignoreCase : Bool
  unicode : Bool
  deriving Repr, DecidableEq

def Flags.mode (f : Flags) : Mode := ⟨f.ignoreCase, f.unicode⟩

namespace Mode

def isAsciiLetterCode (n : Nat) : Bool :=
  (0x41 ≤ n && n ≤ 0x5A) || (0x61 ≤ n && n ≤ 0x7A)

def lower (m : Mode) (n : Nat) : Nat :=
  if m.unicode then lowercase n
  else if 0x41 ≤ n && n ≤ 0x5A then n + 32 else n

def cased (m : Mode) (n : Nat) : Bool :=
  if m.unicode then isCased n else isAsciiLetterCode n

def extra (m : Mode) (n : Nat) : List Nat :=
  if m.unicode then extraCases n else []

/-- The code points whose lowercase form is `x`. -/
def preimage (m : Mode) (x : Nat) : List Nat :=
  if m.unicode then
    (if lowercase x = x then [x] else []) ++
      lowercaseRuns.filterMap fun r =>
        let c := (x : Int) - r.shift
        if 0 ≤ c ∧ r.first ≤ c.toNat ∧ c.toNat ≤ r.last ∧ (c.toNat - r.first) % r.step = 0 then
          some c.toNat
        else none
  else
    (if 0x41 ≤ x && x ≤ 0x5A then [] else [x]) ++ (if 0x61 ≤ x && x ≤ 0x7A then [x - 32] else [])

def isWord (m : Mode) (n : Nat) : Bool :=
  if m.unicode then isAlphanumeric n || n == 0x5F
  else n < 0x80 && (isAsciiLetterCode n || (0x30 ≤ n && n ≤ 0x39) || n == 0x5F)

def isDigit (m : Mode) (n : Nat) : Bool :=
  if m.unicode then isDecimal n else 0x30 ≤ n && n ≤ 0x39

def isSpace (m : Mode) (n : Nat) : Bool :=
  if m.unicode then isSpaceCode n else isAsciiSpaceCode n

/-- Whether a code point belongs to a category. -/
def category (m : Mode) : Category → Nat → Bool
  | .digit, n => m.isDigit n
  | .notDigit, n => !m.isDigit n
  | .space, n => m.isSpace n
  | .notSpace, n => !m.isSpace n
  | .word, n => m.isWord n
  | .notWord, n => !m.isWord n

/-- Whether a text character `ch` matches the pattern character `c`. -/
def literal (m : Mode) (c ch : Nat) : Bool :=
  if !m.ignoreCase || !m.cased c then ch == c
  else
    let lo := m.lower c
    let x := m.lower ch
    x == lo || (m.extra lo).contains x

/-- The test of `literal m c` with the pattern character's forms worked out once. -/
def literalTest (m : Mode) (c : Nat) : Nat → Bool :=
  if !m.ignoreCase || !m.cased c then fun ch => ch == c
  else
    let lo := m.lower c
    let more := m.extra lo
    fun ch =>
      let x := m.lower ch
      x == lo || more.contains x

theorem literalTest_eq (m : Mode) (c ch : Nat) : m.literalTest c ch = m.literal c ch := by
  unfold literalTest literal
  split <;> rfl

def plainItem (m : Mode) (ch : Nat) : SetItem → Bool
  | .char c => ch == c
  | .range lo hi => lo ≤ ch && ch ≤ hi
  | .category k => m.category k ch

def casedWithin (m : Mode) (lo hi : Nat) : Bool :=
  if m.unicode then casedRanges.any (fun r => r.1 ≤ hi && lo ≤ r.2)
  else (0x41 ≤ hi && lo ≤ 0x5A) || (0x61 ≤ hi && lo ≤ 0x7A)

/-- Whether a member makes a case-insensitive set compare lowercase forms: a cased member, or
one that reaches above `0x10000`. -/
def foldsCase (m : Mode) : SetItem → Bool
  | .char c => m.cased c || 0x10000 ≤ c
  | .range lo hi => 0x10000 ≤ hi || m.casedWithin lo hi
  | .category _ => false

/-- Whether a member of a case-insensitive set holds the lowercase form `x`. -/
def foldedItem (m : Mode) (x : Nat) : SetItem → Bool
  | .char c =>
    if 0x10000 ≤ c then x == c
    else m.lower c == x || (m.extra (m.lower c)).contains x
  | .range lo hi =>
    let top := min hi 0xFFFF
    let within := fun c => lo ≤ c && c ≤ top
    let folded := (m.preimage x).any within ||
      (m.extra x).any (fun y => (m.preimage y).any within)
    let wide := 0x10000 ≤ hi &&
      ((lo ≤ x && x ≤ hi) || (lo ≤ uppercase x && uppercase x ≤ hi))
    folded || wide
  | .category k => m.category k x

/-- Whether a set holds a text character. -/
def set (m : Mode) (negated : Bool) (items : List SetItem) (ch : Nat) : Bool :=
  let found :=
    if m.ignoreCase && items.any m.foldsCase then items.any (m.foldedItem (m.lower ch))
    else items.any (m.plainItem ch)
  found != negated

end Mode

end DiagnosticCheck.Regex
