import DiagnosticCheck.Text.Escape
import DiagnosticCheck.Floating

/-!
# JSON values

JSON values as the reports use them: objects keep their members in the order given, numbers are
integers of any size or floating-point numbers, written by their shortest digits, the infinities
and not-a-number as `Infinity`, `-Infinity` and `NaN`. The compact ASCII writing puts no
blank between tokens and escapes every character outside the printable ASCII range, characters
above `0xFFFF` as two UTF-16 escapes. Normalising a value sorts the members of every object by key.
-/

namespace DiagnosticCheck

/-- A JSON value. -/
inductive Json where
  | null
  | bool (b : Bool)
  | int (n : Int)
  | float (f : Floating)
  | str (s : String)
  | arr (items : List Json)
  | obj (members : List (String × Json))
  deriving Repr, Inhabited

namespace Json

/-- The escape of one character in a JSON string written in ASCII. -/
def escapeChar (c : Char) : List Char :=
  let hex4 := fun (n : Nat) => '\\' :: 'u' :: Text.hexDigits 4 n
  if c = '"' then ['\\', '"']
  else if c = '\\' then ['\\', '\\']
  else if c = '\n' then ['\\', 'n']
  else if c = '\r' then ['\\', 'r']
  else if c = '\t' then ['\\', 't']
  else if c = '\x08' then ['\\', 'b']
  else if c = '\x0c' then ['\\', 'f']
  else if 0x20 ≤ c.toNat ∧ c.toNat ≤ 0x7E then [c]
  else if Text.codePoint c ≤ 0xFFFF then hex4 (Text.codePoint c)
  else
    let v := c.toNat - 0x10000
    hex4 (0xD800 + v / 0x400) ++ hex4 (0xDC00 + v % 0x400)

def quote (s : String) : String :=
  String.ofList ('"' :: s.toList.flatMap escapeChar ++ ['"'])

/-- The text of a floating-point number. -/
def floatText : Floating → String
  | .infinity false => "Infinity"
  | .infinity true => "-Infinity"
  | .nan => "NaN"
  | f => f.text

mutual

/-- The compact ASCII text of a value. -/
def compact : Json → String
  | .null => "null"
  | .bool true => "true"
  | .bool false => "false"
  | .int n => toString n
  | .float f => floatText f
  | .str s => quote s
  | .arr items => "[" ++ compactList items ++ "]"
  | .obj members => "\x7b" ++ compactMembers members ++ "\x7d"

def compactList : List Json → String
  | [] => ""
  | [v] => compact v
  | v :: vs => compact v ++ "," ++ compactList vs

def compactMembers : List (String × Json) → String
  | [] => ""
  | [(k, v)] => quote k ++ ":" ++ compact v
  | (k, v) :: rest => quote k ++ ":" ++ compact v ++ "," ++ compactMembers rest

end

def sortMembers (members : List (String × Json)) : List (String × Json) :=
  members.mergeSort (fun a b => decide (a.1 ≤ b.1))

mutual

def normalize : Json → Json
  | .arr items => .arr (normalizeList items)
  | .obj members => .obj (sortMembers (normalizeMembers members))
  | v => v

def normalizeList : List Json → List Json
  | [] => []
  | v :: vs => normalize v :: normalizeList vs

def normalizeMembers : List (String × Json) → List (String × Json)
  | [] => []
  | (k, v) :: rest => (k, normalize v) :: normalizeMembers rest

end

end Json

end DiagnosticCheck
