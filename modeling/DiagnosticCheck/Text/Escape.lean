import DiagnosticCheck.Text.Unicode.Printable

/-!
# Escaped characters

Quoted texts keep printable characters and write every other character as an escape: a
backslash and a letter where the format names the character, otherwise a backslash, `x`, `u` or
`U` and two, four or eight lowercase hexadecimal digits. An `EscapeStyle` holds what differs
between two such formats: which characters have named escapes and where the two-digit form ends.

Texts are strings of Unicode scalar values, yet a YAML escape may write a lone surrogate, a code
point from `U+D800` to `U+DFFF`, which no scalar value is. Such a text carries each lone surrogate
as the code point `0xA0000` above it, in plane 10, which Unicode leaves unassigned; escapes write
it back as the surrogate it stands for.
-/

namespace DiagnosticCheck.Text

def hexDigits (width n : Nat) : List Char :=
  let ds := Nat.toDigits 16 n
  List.replicate (width - ds.length) '0' ++ ds

def surrogateCarrier : Nat := 0xAD800

def ofCodePoint (n : Nat) : Char :=
  if 0xD800 ≤ n ∧ n ≤ 0xDFFF then Char.ofNat (surrogateCarrier + (n - 0xD800)) else Char.ofNat n

def isLoneSurrogate (c : Char) : Bool :=
  surrogateCarrier ≤ c.toNat && c.toNat < surrogateCarrier + 0x800

def codePoint (c : Char) : Nat :=
  if isLoneSurrogate c then 0xD800 + (c.toNat - surrogateCarrier) else c.toNat

def hasLoneSurrogate (s : String) : Bool :=
  s.toList.any isLoneSurrogate

/-- What a quoting format decides about escapes. -/
structure EscapeStyle where
  named : Char → Option Char
  shortBelow : Nat

namespace EscapeStyle

/-- The written form of one character when `printable` tells which characters stand for
themselves: its named escape, itself if printable, or a numeric escape of two, four or eight
digits. -/
def escapeWith (st : EscapeStyle) (printable : Char → Bool) (c : Char) : List Char :=
  match st.named c with
  | some e => ['\\', e]
  | none =>
    let n := codePoint c
    if printable c then [c]
    else if n < st.shortBelow then '\\' :: 'x' :: hexDigits 2 n
    else if n ≤ 0xFFFF then '\\' :: 'u' :: hexDigits 4 n
    else '\\' :: 'U' :: hexDigits 8 n

def escape (st : EscapeStyle) (c : Char) : List Char :=
  st.escapeWith Unicode.isPrintable c

def escapeAll (st : EscapeStyle) (cs : List Char) : List Char :=
  cs.flatMap st.escape

@[simp] theorem escapeAll_nil (st : EscapeStyle) : st.escapeAll [] = [] := rfl

@[simp] theorem escapeAll_cons (st : EscapeStyle) (c : Char) (cs : List Char) :
    st.escapeAll (c :: cs) = st.escape c ++ st.escapeAll cs := rfl

@[simp] theorem escapeAll_append (st : EscapeStyle) (xs ys : List Char) :
    st.escapeAll (xs ++ ys) = st.escapeAll xs ++ st.escapeAll ys := by
  simp [escapeAll]

end EscapeStyle

end DiagnosticCheck.Text
