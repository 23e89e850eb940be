import DiagnosticCheck.Text.Cite
import DiagnosticCheck.Floating

/-!
# Loaded data

Values as a configuration file or a request gives them, before they are checked against a model:
null, booleans, integers of any size, floating-point numbers, texts, byte strings, lists, sets,
and mappings whose keys may be any value. Dates keep only their literal, since no field of a model
takes them; a date and time at a known offset also keeps its instant, which decides whether two
keys are one.
-/

namespace DiagnosticCheck

/-- A loaded value. -/
inductive Data where
  | null
  | bool (b : Bool)
  | int (n : Int)
  | float (f : Floating)
  | str (s : String)
  | list (items : List Data)
  | map (entries : List (Data × Data))
  | bytes (data : List Nat)
  | set (members : List Data)
  | other (literal : String)
  | instant (literal : String) (micros : Int)
  deriving Repr, Inhabited

namespace Data

/-- A mapping key as error locations write it: texts as they are, integers and booleans as
integers, other values as their literal. -/
def locText : Data → String
  | .null => "None"
  | .bool true => "1"
  | .bool false => "0"
  | .int n => toString n
  | .float f => f.text
  | .str s => s
  | .list _ => "[...]"
  | .set _ => "\x7b...\x7d"
  | .map _ => "\x7b...\x7d"
  | .bytes b => Text.citeBytes b
  | .other t => t
  | .instant t _ => t

def asInt? : Data → Option Int
  | .bool b => some (if b then 1 else 0)
  | .int n => some n
  | _ => none

/-- Whether two keys are the same key of a mapping: equal texts, equal numbers (booleans counting
as 0 and 1, a floating-point number equal to an integer only when it is that integer exactly, not
a number equal to nothing), both null, equal literals, or the same instant. -/
def sameKey : Data → Data → Bool
  | .str a, .str b => a == b
  | .null, .null => true
  | .float f, .float g => f.equals g
  | .bytes a, .bytes b => a == b
  | .other a, .other b => a == b
  | .instant _ a, .instant _ b => a == b
  | .float f, b | b, .float f =>
    match b.asInt? with
    | some n => f.toInt? == some n
    | none => false
  | a, b =>
    match a.asInt?, b.asInt? with
    | some x, some y => x == y
    | _, _ => false

/-- Adds a pair to a mapping's entries: a key equal to one present keeps that key's place and
takes the new value. -/
def insertEntry (entries : List (Data × Data)) (k v : Data) : List (Data × Data) :=
  if entries.any (fun e => e.1.sameKey k) then
    entries.map fun e => if e.1.sameKey k then (e.1, v) else e
  else entries ++ [(k, v)]

/-- The value of a text key of a mapping, if the key is present. -/
def lookup? (entries : List (Data × Data)) (key : String) : Option Data :=
  match entries.find? (fun e => match e.1 with
      | .str s => s == key
      | _ => false) with
  | some (_, v) => some v
  | none => none

end Data

end DiagnosticCheck
