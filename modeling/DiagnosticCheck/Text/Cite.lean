import DiagnosticCheck.Text.Escape

/-!
# Cited texts

Messages cite a text between single quotes, or between double quotes when the text holds a single
quote and no double quote. Inside, the backslash, the chosen quote, tab, line feed and carriage
return have named escapes; other characters that are not printable take `\xHH` below `0x100`,
then `\uHHHH` and `\UHHHHHHHH`.
-/

namespace DiagnosticCheck.Text

def citeQuote (cs : List Char) : Char :=
  if cs.contains '\'' && !cs.contains '"' then '"' else '\''

/-- The escapes of a text cited between `q` quotes. -/
def citeStyle (q : Char) : EscapeStyle where
  named c :=
    if c = q then some q
    else if c = '\\' then some '\\'
    else if c = '\t' then some 't'
    else if c = '\n' then some 'n'
    else if c = '\r' then some 'r'
    else none
  shortBelow := 0x100

def cite (s : String) : String :=
  let q := citeQuote s.toList
  String.ofList (q :: (citeStyle q).escapeAll s.toList ++ [q])

/-- The written form of one byte of a cited byte string: named escapes for the backslash, the
quote, tab, line feed and carriage return, itself when it is printable ASCII, else `\xHH`. -/
def citeByte (q : Char) (b : Nat) : List Char :=
  if b = q.toNat ∨ b = 0x5C then ['\\', Char.ofNat b]
  else if b = 0x09 then ['\\', 't']
  else if b = 0x0A then ['\\', 'n']
  else if b = 0x0D then ['\\', 'r']
  else if b < 0x20 ∨ 0x7F ≤ b then '\\' :: 'x' :: hexDigits 2 b
  else [Char.ofNat b]

def citeBytes (bs : List Nat) : String :=
  let q := if bs.contains 0x27 && !bs.contains 0x22 then '"' else '\''
  String.ofList ('b' :: q :: bs.flatMap (citeByte q) ++ [q])

example : cite "it's" = "\"it's\"" := by decide
example : cite "a\tb" = "'a\\tb'" := by decide

end DiagnosticCheck.Text
