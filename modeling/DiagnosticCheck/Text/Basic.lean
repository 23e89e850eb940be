import DiagnosticCheck.Text.Unicode.Space

/-!
# Text operations

Stripping removes Unicode whitespace from both ends of a text; replacing substitutes every
non-overlapping occurrence of a non-empty text, scanning from the left. Prefix tests compare
characters.
-/

namespace DiagnosticCheck.Text

def isAsciiDigit (c : Char) : Bool :=
  '0' ≤ c && c ≤ '9'

def isOctalDigit (c : Char) : Bool :=
  '0' ≤ c && c ≤ '7'

def isAsciiLetter (c : Char) : Bool :=
  ('a' ≤ c && c ≤ 'z') || ('A' ≤ c && c ≤ 'Z')

/-- The value of a digit in base 16, when it is one. -/
def hexDigitValue (c : Char) : Option Nat :=
  if '0' ≤ c ∧ c ≤ '9' then some (c.toNat - '0'.toNat)
  else if 'a' ≤ c ∧ c ≤ 'f' then some (c.toNat - 'a'.toNat + 10)
  else if 'A' ≤ c ∧ c ≤ 'F' then some (c.toNat - 'A'.toNat + 10)
  else none

def isHexDigit (c : Char) : Bool :=
  (hexDigitValue c).isSome

def hexNumber (ds : List Char) : Option Nat :=
  ds.foldlM (fun acc d => (hexDigitValue d).map (acc * 16 + ·)) 0

def octalNumber (ds : List Char) : Nat :=
  ds.foldl (fun acc d => acc * 8 + (d.toNat - '0'.toNat)) 0

def decimalNumber (ds : List Char) : Nat :=
  ds.foldl (fun acc d => acc * 10 + (d.toNat - '0'.toNat)) 0

/-- The pieces of a text between the occurrences of a separator character, in order: one more
piece than there are separators. -/
def splitOnChar (s : String) (sep : Char) : List String :=
  (s.toList.splitOn sep).map String.ofList

def startsWith (s p : String) : Bool :=
  p.toList.isPrefixOf s.toList

def stripChars (cs : List Char) : List Char :=
  ((cs.dropWhile Unicode.isSpace).reverse.dropWhile Unicode.isSpace).reverse

def strip (s : String) : String :=
  String.ofList (stripChars s.toList)

/-- Replaces every occurrence of `p :: ps` in a text by `rep`, left to right, without overlaps. -/
def replaceFrom (p : Char) (ps rep : List Char) : List Char → List Char
  | [] => []
  | c :: cs =>
    if (p :: ps).isPrefixOf (c :: cs) then rep ++ replaceFrom p ps rep (cs.drop ps.length)
    else c :: replaceFrom p ps rep cs
termination_by cs => cs.length
decreasing_by all_goals simp only [List.length_drop, List.length_cons]; omega

/-- Replaces every occurrence of `pat` in `cs` by `rep`, left to right, without overlaps; an
empty `pat` leaves the text as it is. -/
def replaceChars (pat rep : List Char) (cs : List Char) : List Char :=
  match pat with
  | [] => cs
  | p :: ps => replaceFrom p ps rep cs

def replace (s pat rep : String) : String :=
  String.ofList (replaceChars pat.toList rep.toList s.toList)

end DiagnosticCheck.Text
