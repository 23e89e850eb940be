import DiagnosticCheck.Data
import DiagnosticCheck.Text.Basic
import DiagnosticCheck.Text.Utf8

/-!
# Checking loaded data against a model

A model names its fields; checking a mapping against it gives either the model's value or every
problem found, each at a location: the field's name, and for list members their index. Fields are
checked in the model's order, then keys that name no field are refused in the mapping's order. Each
field takes values leniently: a text field takes texts and byte strings in UTF-8; a boolean field
also takes the integers 0 and 1 and the usual words for yes and no; an integer field also takes
booleans, whole floating-point numbers and texts of integers. Byte strings stand for the text they
encode wherever a text is taken.
-/

namespace DiagnosticCheck

/-- A problem with one value. -/
inductive Issue where
  | missing
  | extraForbidden
  | invalidKey
  | stringType
  | stringUnicode
  | stringTooShort
  | boolType
  | boolParsing
  | intType
  | intParsing
  | intFromFloat
  | intTooLarge
  | finiteNumber
  | greaterOrEqual (bound : Int)
  | tupleType
  | oneOf (values : List String)
  | valueError (message : String)
  deriving Repr, DecidableEq

/-- A list of texts, cited, as a phrase: `'a', 'b' or 'c'`. -/
def choicePhrase (values : List String) : String :=
  match values.reverse with
  | [] => ""
  | [v] => Text.cite v
  | last :: rest => ", ".intercalate (rest.reverse.map Text.cite) ++ " or " ++ Text.cite last

/-- The text of a problem. -/
def Issue.message : Issue → String
  | .missing => "Field required"
  | .extraForbidden => "Extra inputs are not permitted"
  | .invalidKey => "Keys should be strings"
  | .stringType => "Input should be a valid string"
  | .stringUnicode => "Input should be a valid string, unable to parse raw data as a unicode string"
  | .stringTooShort => "String should have at least 1 character"
  | .boolType => "Input should be a valid boolean"
  | .boolParsing => "Input should be a valid boolean, unable to interpret input"
  | .intType => "Input should be a valid integer"
  | .intParsing => "Input should be a valid integer, unable to parse string as an integer"
  | .intFromFloat => "Input should be a valid integer, got a number with a fractional part"
  | .intTooLarge => "Unable to parse input string as an integer, exceeded maximum size"
  | .finiteNumber => "Input should be a finite number"
  | .greaterOrEqual b => "Input should be greater than or equal to " ++ toString b
  | .tupleType => "Input should be a valid tuple"
  | .oneOf vs => "Input should be " ++ choicePhrase vs
  | .valueError m => "Value error, " ++ m

/-- A problem at a location. -/
structure FieldError where
  loc : List String
  issue : Issue
  deriving Repr, DecidableEq

def FieldError.text (e : FieldError) : String :=
  ".".intercalate e.loc ++ ": " ++ e.issue.message

def int64Min : Int := -Int.pow 2 63

def int64Max : Int := Int.pow 2 63 - 1

namespace Lenient

/-- The text a byte string encodes in UTF-8, or `undecodable` when it encodes none. -/
def bytesText (b : List Nat) (undecodable : Issue) : Except Issue String :=
  match Text.decodeUtf8 b with
  | .ok s => .ok s
  | .error _ => .error undecodable

def string : Data → Except Issue String
  | .str s => .ok s
  | .bytes b => bytesText b .stringUnicode
  | _ => .error .stringType

/-- The truth value of a word, compared without ASCII case. -/
def wordTruth (s : String) : Option Bool :=
  let l := String.ofList (s.toList.map Char.toLower)
  if s = "0" ∨ l = "f" ∨ l = "n" ∨ l = "no" ∨ l = "off" ∨ l = "false" then some false
  else if s = "1" ∨ l = "t" ∨ l = "y" ∨ l = "on" ∨ l = "yes" ∨ l = "true" then some true
  else none

/-- The truth value of an integer: 0 and 1 only. -/
def intTruth (n : Int) : Except Issue Bool :=
  if n = 0 then .ok false else if n = 1 then .ok true else .error .boolParsing

/-- A boolean value. -/
def bool : Data → Except Issue Bool
  | .bool b => .ok b
  | .str s =>
    if Text.hasLoneSurrogate s then .error .stringUnicode
    else match wordTruth s with
      | some b => .ok b
      | none => .error .boolParsing
  | .bytes bs => do
    match wordTruth (← bytesText bs .boolParsing) with
    | some b => .ok b
    | none => .error .boolParsing
  | .int n =>
    if int64Min ≤ n ∧ n ≤ int64Max then intTruth n else .error .boolType
  | .float f =>
    match f.toInt? with
    | some n => if int64Min < n ∧ n < int64Max then intTruth n else .error .boolType
    | none => .error .boolType
  | _ => .error .boolType

def isNumberBlank (c : Char) : Bool :=
  c.toNat ∈ [0x09, 0x0A, 0x0B, 0x0C, 0x0D, 0x20, 0x85, 0xA0, 0x1680, 0x2028, 0x2029, 0x202F,
    0x205F, 0x3000] || (0x2000 ≤ c.toNat && c.toNat ≤ 0x200A)

def maxIntDigits : Nat := 4300

/-- Why a text is no integer in the strict form. -/
inductive StrictFault where
  | shape
  | tooLong
  deriving Repr, DecidableEq

/-- The integer that the whole of `cs` writes in the strict form: an optional minus, then `0` or
digits that do not start with `0`. The length is checked on the sign and digits at the front
before anything after them. -/
def strictInt (cs : List Char) : Except StrictFault Int :=
  let (neg, rest) := match cs with
    | '-' :: r => (true, r)
    | r => (false, r)
  let ds := rest.takeWhile Text.isAsciiDigit
  let signLength := if neg then 1 else 0
  if ds.isEmpty ∨ (ds.length > 1 ∧ ds.head? = some '0') then .error .shape
  else if signLength + ds.length > maxIntDigits then .error .tooLong
  else if ds.length < rest.length then .error .shape
  else
    let v : Int := Text.decimalNumber ds
    .ok (if neg then -v else v)

/-- Drops the zeros that lead a number, with underscores among them: what follows the first
other digit or minus is kept from there, a point keeps the zero before it, and a text of zeros
and underscores keeps its last character. A first character that is no digit, or another
character among the leading zeros, makes the text no number. -/
def dropLeadingZeros (cs : List Char) : Option (List Char) :=
  match cs with
  | '0' :: rest =>
    let tail := rest.dropWhile (fun c => c = '0' || c = '_')
    match tail with
    | [] => some [cs.getLast?.getD '0']
    | '.' :: _ => some (((cs.take (cs.length - tail.length)).getLast?.getD '0') :: tail)
    | c :: _ => if ('1' ≤ c ∧ c ≤ '9') ∨ c = '-' then some tail else none
  | c :: _ => if '1' ≤ c ∧ c ≤ '9' then some cs else none
  | [] => none

def dropZeroFraction (cs : List Char) : List Char :=
  match cs.span (· ≠ '.') with
  | (whole, '.' :: frac) => if !frac.isEmpty ∧ frac.all (· = '0') then whole else cs
  | _ => cs

def dropUnderscores (cs : List Char) : Option (List Char) :=
  if cs.head? = some '_' ∨ cs.getLast? = some '_' ∨ (cs.zip cs.tail).any (· = ('_', '_')) then none
  else some (cs.filter (· ≠ '_'))

/-- The integer a text holds. The text is read in the strict form first, and one too long there
is refused as such. Failing that, its blanks are dropped, then a minus is set aside or a plus
dropped, then leading zeros, a fraction of zeros and underscores that each stand alone are
dropped, and the minus put back; what that gives must be in the strict form. -/
def textInt (s : String) : Except Issue Int :=
  let cs := s.toList
  match strictInt cs with
  | .ok v => .ok v
  | .error .tooLong => .error .intTooLarge
  | .error .shape =>
    let trimmed := ((cs.dropWhile isNumberBlank).reverse.dropWhile isNumberBlank).reverse
    let (neg, unsigned) := match trimmed with
      | '-' :: r => (true, r)
      | '+' :: r => (false, r)
      | r => (false, r)
    match dropLeadingZeros unsigned with
    | none => .error .intParsing
    | some ds =>
      let ds := dropZeroFraction ds
      let ds := (dropUnderscores ds).getD ds
      let cleaned := if neg then '-' :: ds else ds
      if cleaned.length = cs.length then .error .intParsing
      else match strictInt cleaned with
        | .ok v => .ok v
        | .error _ => .error .intParsing

/-- An integer value. -/
def int : Data → Except Issue Int
  | .bool b => .ok (if b then 1 else 0)
  | .int n => .ok n
  | .str s => if Text.hasLoneSurrogate s then .error .stringUnicode else textInt s
  | .bytes b => do textInt (← bytesText b .intParsing)
  | .float f =>
    match f with
    | .finite _ _ _ =>
      match f.toInt? with
      | some n => if int64Min < n ∧ n < int64Max then .ok n else .error .intTooLarge
      | none => .error .intFromFloat
    | _ => .error .finiteNumber
  | _ => .error .intType

/-- A list of texts, each checked at its index. -/
def stringList (field : String) : Data → Except (List FieldError) (List String)
  | .list items | .set items =>
    let checked := items.zipIdx.map fun (v, i) =>
      (string v).mapError fun issue => { loc := [field, toString i], issue : FieldError }
    let errors := checked.filterMap fun r => match r with
      | .error e => some e
      | .ok _ => none
    if errors.isEmpty then
      .ok (checked.filterMap fun r => match r with
        | .ok v => some v
        | .error _ => none)
    else .error errors
  | _ => .error [{ loc := [field], issue := .tupleType }]

end Lenient

/-- Whether a key of a mapping is a text holding a lone surrogate, which cannot be read as a
name at all: checking the mapping then stops with that one problem, at no location. -/
def unreadableKey (entries : List (Data × Data)) : Bool :=
  entries.any fun (k, _) => match k with
    | .str s => Text.hasLoneSurrogate s
    | _ => false

def unreadableKeyError : FieldError := { loc := [], issue := .stringUnicode }

/-- The keys of a mapping that name no field, as errors; a key that is no text is refused as
such. -/
def extraKeys (fields : List String) (entries : List (Data × Data)) : List FieldError :=
  entries.filterMap fun (k, _) =>
    match k with
    | .str s => if fields.contains s then none else some { loc := [s], issue := .extraForbidden }
    | other => some { loc := [other.locText], issue := .invalidKey }

end DiagnosticCheck
