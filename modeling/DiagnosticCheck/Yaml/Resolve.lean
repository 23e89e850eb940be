/-!
# Types of plain scalars

A plain scalar without a tag has its type guessed from its text, by the rules of YAML 1.1: the
words for booleans and null, integers in binary, octal, decimal, hexadecimal and base 60, floating
point numbers with a point, infinities and not-a-number, dates with an optional time, and the
merge and value keys `<<` and `=`. Every other text is a string.
-/

namespace DiagnosticCheck.Yaml

def strTag : String := "tag:yaml.org,2002:str"

def seqTag : String := "tag:yaml.org,2002:seq"

def mapTag : String := "tag:yaml.org,2002:map"

namespace Resolve

def isDigit (c : Char) : Bool := '0' ≤ c && c ≤ '9'

def unsigned : List Char → List Char
  | '+' :: rest => rest
  | '-' :: rest => rest
  | cs => cs

def isSixtiesGroup : List Char → Bool
  | [d] => isDigit d
  | [a, b] => '0' ≤ a && a ≤ '5' && isDigit b
  | _ => false

/-- Whether a text is one or more base-60 groups, each after a colon. -/
def isSixtiesGroups (cs : List Char) : Bool :=
  match cs with
  | ':' :: rest =>
    let groups := (String.ofList rest).splitOn ":"
    groups.all fun g => isSixtiesGroup g.toList
  | _ => false

def isExponent : List Char → Bool
  | e :: s :: ds => (e = 'e' || e = 'E') && (s = '+' || s = '-') && !ds.isEmpty && ds.all isDigit
  | _ => false

def isOptionalExponent (cs : List Char) : Bool :=
  cs.isEmpty || isExponent cs

def isDigitMark (c : Char) : Bool := isDigit c || c = '_'

/-- Whether a text is an integer: binary `0b`, octal with a leading `0`, decimal, hexadecimal
`0x`, or base 60 with colons; underscores may separate digits and a sign may lead. -/
def isInt (cs : List Char) : Bool :=
  let body := unsigned cs
  match body with
  | '0' :: 'b' :: rest => !rest.isEmpty && rest.all (fun c => c = '0' || c = '1' || c = '_')
  | '0' :: 'x' :: rest =>
    !rest.isEmpty && rest.all (fun c => isDigit c || ('a' ≤ c && c ≤ 'f') || ('A' ≤ c && c ≤ 'F') || c = '_')
  | ['0'] => true
  | '0' :: rest => rest.all (fun c => ('0' ≤ c && c ≤ '7') || c = '_')
  | d :: rest =>
    '1' ≤ d && d ≤ '9' &&
      (rest.all isDigitMark || isSixtiesGroups (rest.dropWhile isDigitMark))
  | [] => false

/-- Whether a text is a floating point number: digits with a point and an optional exponent, a
point and digits, base 60 with a fraction, an infinity, or not-a-number. -/
def isFloat (cs : List Char) : Bool :=
  let decimal := fun (body : List Char) =>
    match body with
    | d :: rest =>
      isDigit d &&
        match rest.dropWhile isDigitMark with
        | '.' :: frac => isOptionalExponent (frac.dropWhile isDigitMark)
        | _ => false
    | [] => false
  let pointFirst := fun (body : List Char) =>
    match body with
    | '.' :: d :: rest => isDigit d && isOptionalExponent (rest.dropWhile isDigitMark)
    | _ => false
  let sixties := fun (body : List Char) =>
    match body with
    | d :: rest =>
      isDigit d &&
        let groups := rest.dropWhile isDigitMark
        let whole := groups.takeWhile (· ≠ '.')
        let frac := groups.dropWhile (· ≠ '.')
        isSixtiesGroups whole && (match frac with
          | '.' :: f => f.all isDigitMark
          | _ => false)
    | [] => false
  let body := unsigned cs
  decimal body || pointFirst cs || sixties body ||
    body = ['.', 'i', 'n', 'f'] || body = ['.', 'I', 'n', 'f'] || body = ['.', 'I', 'N', 'F'] ||
    cs = ['.', 'n', 'a', 'n'] || cs = ['.', 'N', 'a', 'N'] || cs = ['.', 'N', 'A', 'N']

/-- The parts of a date with an optional time: year, month, day, and the time part if any as
hour, minute, second, fraction digits and zone (`Z` or a signed offset). -/
structure Stamp where
  year : Nat
  month : Nat
  day : Nat
  time : Option (Nat × Nat × Nat × List Char × Option (Option (Bool × Nat × Nat)))
  deriving Repr

def digitsValue (ds : List Char) : Nat :=
  ds.foldl (fun n d => n * 10 + (d.toNat - 48)) 0

/-- One or two digits and what follows them. -/
def oneOrTwo (cs : List Char) : Option (Nat × List Char) :=
  match cs with
  | a :: b :: rest =>
    if isDigit a && isDigit b then some (digitsValue [a, b], rest)
    else if isDigit a then some (digitsValue [a], b :: rest) else none
  | [a] => if isDigit a then some (digitsValue [a], []) else none
  | [] => none

def exactlyTwo (cs : List Char) : Option (Nat × List Char) :=
  match cs with
  | a :: b :: rest => if isDigit a && isDigit b then some (digitsValue [a, b], rest) else none
  | _ => none

/-- The zone of a time: `Z`, or a sign, one or two digits of hours and optionally a colon and
two digits of minutes; `none` inside for `Z`. -/
def zone (cs : List Char) : Option (Option (Bool × Nat × Nat)) :=
  match cs with
  | ['Z'] => some none
  | s :: rest =>
    if s = '+' || s = '-' then
      match oneOrTwo rest with
      | some (h, []) => some (some (s = '-', h, 0))
      | some (h, ':' :: more) =>
        match exactlyTwo more with
        | some (m, []) => some (some (s = '-', h, m))
        | _ => none
      | _ => none
    else none
  | [] => none

/-- Reads a date, `YYYY-MM-DD`, or a date with a time. The two-digit form of month and day is
required when no time follows. -/
def stamp? (cs : List Char) : Option Stamp := do
  let y := cs.take 4
  guard (y.length = 4 && y.all isDigit)
  let rest := cs.drop 4
  guard (rest.head? = some '-')
  let (month, rest) ← oneOrTwo (rest.drop 1)
  guard (rest.head? = some '-')
  let (day, rest) ← oneOrTwo (rest.drop 1)
  if rest.isEmpty then
    guard (cs.length = 10)
    return { year := digitsValue y, month, day, time := none }
  let rest ← match rest with
    | 'T' :: r => some r
    | 't' :: r => some r
    | r =>
      let blanks := r.takeWhile (fun c => c = ' ' || c = '\t')
      if blanks.isEmpty then none else some (r.drop blanks.length)
  let (hour, rest) ← oneOrTwo rest
  guard (rest.head? = some ':')
  let (minute, rest) ← exactlyTwo (rest.drop 1)
  guard (rest.head? = some ':')
  let (second, rest) ← exactlyTwo (rest.drop 1)
  let (frac, rest) := match rest with
    | '.' :: r => (r.takeWhile isDigit, r.dropWhile isDigit)
    | r => ([], r)
  let afterBlanks := rest.dropWhile (fun c => c = ' ' || c = '\t')
  let z ← if rest.isEmpty then some none else (zone afterBlanks).map some
  return { year := digitsValue y, month, day, time := some (hour, minute, second, frac, z) }

def boolWords : List String :=
  ["yes", "Yes", "YES", "no", "No", "NO", "true", "True", "TRUE", "false", "False", "FALSE",
    "on", "On", "ON", "off", "Off", "OFF"]

def nullWords : List String :=
  ["~", "null", "Null", "NULL", ""]

end Resolve

/-- The tag guessed from the text of a plain scalar, if its text has a type other than string. -/
def implicitTag? (value : String) : Option String :=
  let cs := value.toList
  if Resolve.boolWords.contains value then some "tag:yaml.org,2002:bool"
  else if Resolve.isFloat cs then some "tag:yaml.org,2002:float"
  else if Resolve.isInt cs then some "tag:yaml.org,2002:int"
  else if value = "<<" then some "tag:yaml.org,2002:merge"
  else if Resolve.nullWords.contains value then some "tag:yaml.org,2002:null"
  else if (Resolve.stamp? cs).isSome then some "tag:yaml.org,2002:timestamp"
  else if value = "=" then some "tag:yaml.org,2002:value"
  else none

def scalarTag (value : String) (plainImplicit : Bool) : String :=
  if plainImplicit then (implicitTag? value).getD strTag else strTag

end DiagnosticCheck.Yaml
