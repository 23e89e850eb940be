import DiagnosticCheck.Yaml.Node
import DiagnosticCheck.Data
import DiagnosticCheck.Numeral
import DiagnosticCheck.Text.Base64
import DiagnosticCheck.Text.Unicode.Case

/-!
# Values of YAML nodes

A node's tag says how it becomes a value: null, a boolean, an integer, a floating point number, a
date, a byte string or a string from a scalar; a list from a sequence; a mapping, a set, an ordered
map or a list of pairs from the matching collections. A tag with no such rule fails, and so does a
rule applied to the wrong kind of node, or a mapping key that is a collection.

Collections are filled breadth first: a collection's scalars are made when it is filled, its inner
collections only after every collection of its generation, which decides which of two faults is
reported. Mapping keys `<<` merge the pairs of the mappings they name before the mapping's own,
and equal keys keep the first key's place and the last value.
-/

namespace DiagnosticCheck.Yaml

/-- How a node becomes a value. -/
inductive Maker where
  | null | bool | int | float | binary | timestamp | str | seq | map | set | omap | pairs
  deriving Repr, DecidableEq

namespace Maker

/-- The rule of a tag, if it has one. -/
def ofTag? : String → Option Maker
  | "tag:yaml.org,2002:null" => some .null
  | "tag:yaml.org,2002:bool" => some .bool
  | "tag:yaml.org,2002:int" => some .int
  | "tag:yaml.org,2002:float" => some .float
  | "tag:yaml.org,2002:binary" => some .binary
  | "tag:yaml.org,2002:timestamp" => some .timestamp
  | "tag:yaml.org,2002:str" => some .str
  | "tag:yaml.org,2002:seq" => some .seq
  | "tag:yaml.org,2002:map" => some .map
  | "tag:yaml.org,2002:set" => some .set
  | "tag:yaml.org,2002:omap" => some .omap
  | "tag:yaml.org,2002:pairs" => some .pairs
  | _ => none

def isCollection : Maker → Bool
  | .seq | .map | .set | .omap | .pairs => true
  | _ => false

end Maker

def valueTag : String := "tag:yaml.org,2002:value"

def mergeTag : String := "tag:yaml.org,2002:merge"

namespace Construct

def intIn (base : Nat) (s : String) : Except Error Int :=
  (Numeral.intIn base s).mapError fun f => .badValue .value (f.message base s)

/-- The integer a scalar denotes, with underscores dropped and an optional sign: `0` itself,
binary after `0b`, hexadecimal after `0x`, octal after another leading zero, base 60 with colons,
or decimal. An empty text, or a sign alone, has no first character to look at. -/
def intValue (text : String) : Except Error Int := do
  let cs := text.toList.filter (· ≠ '_')
  if cs.isEmpty then throw (.badValue .index "string index out of range")
  let sign : Int := if cs.head? = some '-' then -1 else 1
  let body := match cs with
    | '-' :: r => r
    | '+' :: r => r
    | r => r
  let s := String.ofList body
  if body = ['0'] then return 0
  match body with
  | '0' :: 'b' :: r => return sign * (← intIn 2 (String.ofList r))
  | '0' :: 'x' :: r => return sign * (← intIn 16 (String.ofList r))
  | '0' :: _ => return sign * (← intIn 8 s)
  | [] => throw (.badValue .index "string index out of range")
  | _ =>
    if body.contains ':' then
      let parts ← (s.splitOn ":").mapM (intIn 10)
      return sign * parts.foldl (fun acc d => acc * 60 + d) 0
    else return sign * (← intIn 10 s)

def floatIn (s : String) : Except Error Floating :=
  match Numeral.floatOf? s with
  | some f => .ok f
  | none => .error (.badValue .value ("could not convert string to float: " ++ Text.cite s))

/-- The sum of base-60 places, the least significant first, from `acc`: each place is
multiplied by its weight, a power of sixty that must itself be a finite floating-point number, and
added, in floating-point arithmetic. -/
def sexagesimalFrom (acc : Floating) (weight : Nat) : List Floating → Except Error Floating
  | [] => .ok acc
  | d :: ds =>
    let w := Floating.ofInt weight
    if w.isFinite then sexagesimalFrom (acc.add (d.mul w)) (weight * 60) ds
    else .error (.badValue .overflow "int too large to convert to float")

def sexagesimal (parts : List Floating) : Except Error Floating :=
  sexagesimalFrom (Floating.zero false) 1 parts.reverse

/-- The floating point number a scalar denotes, lowercased with underscores dropped and an
optional sign: an infinity, not a number, base 60 with colons, or any numeral. -/
def floatValue (text : String) : Except Error Floating := do
  let cs := Text.Unicode.lowerChars (text.toList.filter (· ≠ '_'))
  if cs.isEmpty then throw (.badValue .index "string index out of range")
  let neg : Bool := cs.head? == some '-'
  let body := match cs with
    | '-' :: r => r
    | '+' :: r => r
    | r => r
  let signed := fun (f : Floating) => if neg then f.negate else f
  if body = ".inf".toList then return .infinity neg
  if body = ".nan".toList then return .nan
  if body.contains ':' then
    let parts ← ((String.ofList body).splitOn ":").mapM floatIn
    return signed (← sexagesimal parts)
  return signed (← floatIn (String.ofList body))

def daysIn (year month : Nat) : Nat :=
  if month = 2 then
    if (year % 4 = 0 ∧ year % 100 ≠ 0) ∨ year % 400 = 0 then 29 else 28
  else if month = 4 ∨ month = 6 ∨ month = 9 ∨ month = 11 then 30 else 31

/-- The literal of a span of seconds: whole days, rounded down, and the seconds left. -/
def spanLiteral (seconds : Int) : String :=
  let days := seconds / 86400
  let rest := seconds - days * 86400
  let fields := (if days ≠ 0 then ["days=" ++ toString days] else []) ++
    (if rest ≠ 0 then ["seconds=" ++ toString rest] else [])
  "datetime.timedelta(" ++ (if fields.isEmpty then "0" else ", ".intercalate fields) ++ ")"

def offsetLiteral (seconds : Int) : String :=
  if seconds = 0 then "datetime.timezone.utc"
  else "datetime.timezone(" ++ spanLiteral seconds ++ ")"

def dayNumber (year month day : Nat) : Nat :=
  let y := year - 1
  365 * y + y / 4 - y / 100 + y / 400 +
    ((List.range (month - 1)).map fun i => daysIn year (i + 1)).foldr (· + ·) 0 + (day - 1)

/-- The date or date and time a scalar denotes. A date and time at an offset checks the offset
first, which must be less than a day either way, and then its fields. -/
def timestampValue (text : String) : Except Error Data := do
  let cs := text.toList
  -- the date alone may have one-digit month and day here
  let stamp ← match Resolve.stamp? cs with
    | some st => pure st
    | none =>
      match cs.take 4, cs.drop 4 with
      | y, '-' :: rest =>
        match Resolve.oneOrTwo rest with
        | some (month, '-' :: more) =>
          match Resolve.oneOrTwo more with
          | some (day, []) =>
            if y.length = 4 ∧ y.all Char.isDigit then
              pure { year := Resolve.digitsValue y, month, day, time := none }
            else throw (.badValue .attribute "'NoneType' object has no attribute 'groupdict'")
          | _ => throw (.badValue .attribute "'NoneType' object has no attribute 'groupdict'")
        | _ => throw (.badValue .attribute "'NoneType' object has no attribute 'groupdict'")
      | _, _ => throw (.badValue .attribute "'NoneType' object has no attribute 'groupdict'")
  let offset : Option Int := match stamp.time with
    | some (_, _, _, _, some none) => some 0
    | some (_, _, _, _, some (some (neg, h, m))) =>
      let s : Int := (h * 3600 + m * 60 : Nat)
      some (if neg then -s else s)
    | _ => none
  if let some s := offset then
    if s ≤ -86400 ∨ 86400 ≤ s then
      throw (.badValue .value ("offset must be a timedelta strictly between " ++
        "-timedelta(hours=24) and timedelta(hours=24), not " ++ spanLiteral s ++ "."))
  if stamp.year < 1 ∨ stamp.year > 9999 then
    throw (.badValue .value ("year " ++ toString stamp.year ++ " is out of range"))
  if stamp.month < 1 ∨ stamp.month > 12 then throw (.badValue .value "month must be in 1..12")
  if stamp.day < 1 ∨ stamp.day > daysIn stamp.year stamp.month then
    throw (.badValue .value "day is out of range for month")
  let date := [toString stamp.year, toString stamp.month, toString stamp.day]
  match stamp.time with
  | none => return .other ("datetime.date(" ++ ", ".intercalate date ++ ")")
  | some (hour, minute, second, frac, _) =>
    if hour > 23 then throw (.badValue .value "hour must be in 0..23")
    if minute > 59 then throw (.badValue .value "minute must be in 0..59")
    if second > 59 then throw (.badValue .value "second must be in 0..59")
    let micro := Resolve.digitsValue ((frac.take 6) ++ List.replicate (6 - min 6 frac.length) '0')
    let parts := date ++ [toString hour, toString minute] ++
      (if second ≠ 0 ∨ micro ≠ 0 then [toString second] else []) ++
      (if micro ≠ 0 then [toString micro] else [])
    let fields := ", ".intercalate parts
    match offset with
    | none => return .other ("datetime.datetime(" ++ fields ++ ")")
    | some s =>
      let wall : Int := dayNumber stamp.year stamp.month stamp.day * 86400 +
        (hour * 3600 + minute * 60 + second : Nat)
      return .instant ("datetime.datetime(" ++ fields ++ ", tzinfo=" ++ offsetLiteral s ++ ")")
        ((wall - s) * 1000000 + micro)

/-- The bytes of base64 data in a scalar starting at `start`. -/
def binaryValue (text : String) (start : Mark) : Except Error (List Nat) := do
  let ascii ← (Text.Base64.asciiBytes text).mapError fun m =>
    Error.at none none ("failed to convert base64 data into ascii: " ++ m) start
  (Text.Base64.decode ascii).mapError fun m =>
    Error.at none none ("failed to decode base64 data: " ++ m) start

/-- The value a scalar rule makes of the text of a scalar starting at `start`. -/
def scalarValue (m : Maker) (text : String) (start : Mark) : Except Error Data :=
  match m with
  | .null => .ok .null
  | .bool =>
    let l := Text.Unicode.lowerText text
    if l = "yes" ∨ l = "true" ∨ l = "on" then .ok (.bool true)
    else if l = "no" ∨ l = "false" ∨ l = "off" then .ok (.bool false)
    else .error (.badValue .key l)
  | .int => (intValue text).map .int
  | .float => (floatValue text).map .float
  | .binary => (binaryValue text start).map .bytes
  | .timestamp => timestampValue text
  | _ => .ok (.str text)

end Construct

/-- The state of making values: which nodes are made, the values of scalars, the collections
waiting to be filled, and the nodes retagged as texts. -/
structure Build where
  made : Array Bool
  values : Array (Option Data)
  pending : Array Nat
  retagged : Array Bool

abbrev BuildM := ReaderT (Array Node) (StateT Build (Except Error))

namespace Construct

def nodeAt (id : Nat) : BuildM Node := do
  let n := (← read).getD id default
  if (← get).retagged.getD id false then return { n with tag := strTag } else return n

/-- The rule of a node. -/
def makerOf (n : Node) : BuildM Maker := do
  match Maker.ofTag? n.tag with
  | some m => return m
  | none =>
    throw (Error.at none none ("could not determine a constructor for the tag " ++ Text.cite n.tag)
      n.start)

/-- Makes a node's value unless it is made: a scalar at once, a collection later. -/
def construct (id : Nat) : BuildM Unit := do
  if (← get).made.getD id false then return
  let n ← nodeAt id
  let m ← makerOf n
  if m.isCollection then
    modify fun b => { b with made := b.made.set! id true, pending := b.pending.push id }
  else
    match n.body with
    | .scalar text =>
      match scalarValue m text n.start with
      | .ok d => modify fun b => { b with made := b.made.set! id true, values := b.values.set! id (some d) }
      | .error e => throw e
    | _ => throw (Error.at none none ("expected a scalar node, but found " ++ n.kindName) n.start)

/-- The pairs of a mapping node with its merge keys replaced by the pairs they name, which come
first, later merged mappings before earlier ones. A key tagged `=` among them becomes a text for
good, wherever else its node stands. -/
def flatten : Nat → Nat → BuildM (Array (Nat × Nat))
  | 0, _ => return #[]
  | fuel + 1, id => do
    let n ← nodeAt id
    let pairs := match n.body with
      | .mapping ps => ps
      | _ => #[]
    let mut merged : Array (Nat × Nat) := #[]
    let mut own : Array (Nat × Nat) := #[]
    for (k, v) in pairs do
      if (← nodeAt k).tag = mergeTag then
        let vn ← nodeAt v
        match vn.body with
        | .mapping _ => merged := merged ++ (← flatten fuel v)
        | .sequence items =>
          let mut parts : Array (Array (Nat × Nat)) := #[]
          for s in items do
            let sn ← nodeAt s
            match sn.body with
            | .mapping _ => parts := parts.push (← flatten fuel s)
            | _ =>
              throw (Error.at (some "while constructing a mapping") (some n.start)
                ("expected a mapping for merging, but found " ++ sn.kindName) sn.start)
          for part in parts.reverse do
            merged := merged ++ part
        | .scalar _ =>
          throw (Error.at (some "while constructing a mapping") (some n.start)
            ("expected a mapping or list of mappings for merging, but found " ++ vn.kindName)
            vn.start)
      else
        if (← nodeAt k).tag = valueTag then
          modify fun b => { b with retagged := b.retagged.set! k true }
        own := own.push (k, v)
    return merged ++ own

/-- Fills a collection: makes its items, or its keys and values. -/
def fill (id : Nat) : BuildM Unit := do
  let n ← nodeAt id
  let fuel := (← read).size + 1
  match ← makerOf n with
  | .seq =>
    match n.body with
    | .sequence items =>
      for i in items do construct i
    | _ => throw (Error.at none none ("expected a sequence node, but found " ++ n.kindName) n.start)
  | .omap | .pairs =>
    let context := if (← makerOf n) = .omap then "while constructing an ordered map"
      else "while constructing pairs"
    match n.body with
    | .sequence items =>
      for s in items do
        let sn ← nodeAt s
        match sn.body with
        | .mapping ps =>
          if ps.size ≠ 1 then
            throw (Error.at (some context) (some n.start)
              ("expected a single mapping item, but found " ++ toString ps.size ++ " items") sn.start)
          let (k, v) := ps.getD 0 (0, 0)
          construct k
          construct v
        | _ =>
          throw (Error.at (some context) (some n.start)
            ("expected a mapping of length 1, but found " ++ sn.kindName) sn.start)
    | _ =>
      throw (Error.at (some context) (some n.start) ("expected a sequence, but found " ++ n.kindName)
        n.start)
  | _ =>
    let pairs ← match n.body with
      | .mapping _ => flatten fuel id
      | _ => throw (Error.at none none ("expected a mapping node, but found " ++ n.kindName) n.start)
    for (k, v) in pairs do
      construct k
      let kn ← nodeAt k
      if (← makerOf kn).isCollection then
        throw (Error.at (some "while constructing a mapping") (some n.start) "found unhashable key"
          kn.start)
      construct v

/-- Whether a floating-point scalar denotes the one not-a-number that every `.nan` shares: its
text, lowercased with underscores dropped and one sign dropped, is `.nan`. -/
def sharedNan (text : String) : Bool :=
  let cs := Text.Unicode.lowerChars (text.toList.filter (· ≠ '_'))
  let body := match cs with
    | '-' :: r => r
    | '+' :: r => r
    | r => r
  body = ".nan".toList

/-- The object that the key made of node `id` is, which tells keys apart that equality does not:
not-a-number equals nothing, yet a key is the key it is. The not-a-number of every `.nan` is
object 0; any other node is an object of its own. -/
def keyObject (key : Data) (id : Nat) : BuildM Nat := do
  match key, (← nodeAt id).body with
  | .float .nan, .scalar text => return if sharedNan text then 0 else id + 1
  | _, _ => return id + 1

def sameObject (a b : Data × Nat) : Bool :=
  a.1.sameKey b.1 || a.2 == b.2

/-- Adds a pair to a mapping's entries, its key with its object: a key present keeps its place
and takes the new value. -/
def insertObject (entries : List ((Data × Nat) × Data)) (k : Data × Nat) (v : Data) :
    List ((Data × Nat) × Data) :=
  if entries.any (fun e => sameObject e.1 k) then
    entries.map fun e => if sameObject e.1 k then (e.1, v) else e
  else entries ++ [(k, v)]

/-- The value of a node once every node is made; `fuel` bounds the depth of nested values. -/
def value : Nat → Nat → BuildM Data
  | 0, _ => return .other "..."
  | fuel + 1, id => do
    let n ← nodeAt id
    match ← makerOf n with
    | .seq =>
      match n.body with
      | .sequence items => return .list (← items.toList.mapM (value fuel))
      | _ => return .list []
    | .omap | .pairs =>
      match n.body with
      | .sequence items =>
        let mut out : List Data := []
        for s in items do
          match (← nodeAt s).body with
          | .mapping ps =>
            let (k, v) := ps.getD 0 (0, 0)
            out := out ++ [.list [← value fuel k, ← value fuel v]]
          | _ => pure ()
        return .list out
      | _ => return .list []
    | .set =>
      let pairs ← flatten ((← read).size + 1) id
      let mut members : List (Data × Nat) := []
      for (k, _) in pairs do
        let made ← value fuel k
        let key := (made, ← keyObject made k)
        if !members.any (sameObject · key) then members := members ++ [key]
      return .set (members.map (·.1))
    | .map =>
      let pairs ← flatten ((← read).size + 1) id
      let mut entries : List ((Data × Nat) × Data) := []
      for (k, v) in pairs do
        let made ← value fuel k
        entries := insertObject entries (made, ← keyObject made k) (← value fuel v)
      return .map (entries.map fun ((k, _), v) => (k, v))
    | _ => return ((← get).values.getD id none).getD .null

/-- Makes the value of the root node: every node it reaches, generation by generation, then the
value itself. -/
def document (root : Nat) : BuildM Data := do
  construct root
  for _ in [0:(← read).size + 1] do
    let generation := (← get).pending
    if generation.isEmpty then break
    modify fun b => { b with pending := #[] }
    for id in generation do fill id
  value ((← read).size + 1) root

end Construct

end DiagnosticCheck.Yaml
