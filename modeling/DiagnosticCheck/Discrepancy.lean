import DiagnosticCheck.Json
import DiagnosticCheck.Validation

/-!
# Discrepancies

A discrepancy is one way the output and the annotations disagree. Its kind tells which; its
message is never empty. Every kind but the two of unmatched output concerns one annotation and so
has a file and a line, at least 1; the unmatched kinds have neither. A witness, a JSON value,
may hold the data the message is built from, with object keys sorted.

Making a discrepancy checks these rules and names every field that breaks them; the location rule
is checked only when the fields themselves are right.
-/

namespace DiagnosticCheck

mutual

/-- A loaded value as JSON, when it is one: mappings need text keys. -/
def Data.toJson? : Data → Except String Json
  | .null => .ok .null
  | .bool b => .ok (.bool b)
  | .int n => .ok (.int n)
  | .float f => .ok (.float f)
  | .str s => .ok (.str s)
  | .list items => (Data.listToJson? items).map .arr
  | .map entries => (Data.membersToJson? entries).map .obj
  | .bytes _ | .set _ | .other _ | .instant _ _ => .error "witness must be JSON-serializable"

def Data.listToJson? : List Data → Except String (List Json)
  | [] => .ok []
  | v :: vs => do return (← v.toJson?) :: (← Data.listToJson? vs)

def Data.membersToJson? : List (Data × Data) → Except String (List (String × Json))
  | [] => .ok []
  | (.str k, v) :: rest => do return (k, ← v.toJson?) :: (← Data.membersToJson? rest)
  | _ :: _ => .error "witness object keys must be strings"

end

/-- The kinds of discrepancy. -/
inductive Discrepancy.Kind where
  | noChecker
  | missingError
  | unexpectedLine
  | wrongChecker
  | noMatch
  | unmatchedMarker
  | unmatchedEntry
  deriving Repr, DecidableEq

namespace Discrepancy.Kind

/-- The name of a kind. -/
def name : Kind → String
  | .noChecker => "no_checker"
  | .missingError => "missing_error"
  | .unexpectedLine => "unexpected_line"
  | .wrongChecker => "wrong_checker"
  | .noMatch => "no_match"
  | .unmatchedMarker => "unmatched_marker"
  | .unmatchedEntry => "unmatched_entry"

def all : List Kind :=
  [.noChecker, .missingError, .unexpectedLine, .wrongChecker, .noMatch, .unmatchedMarker,
    .unmatchedEntry]

def ofName? (s : String) : Option Kind :=
  all.find? (·.name == s)

def located : Kind → Bool
  | .unmatchedMarker | .unmatchedEntry => false
  | _ => true

end Discrepancy.Kind

/-- A discrepancy, with the rules it keeps: a message, a line of at least 1, and a place exactly
when its kind concerns one annotation. -/
structure Discrepancy where
  kind : Discrepancy.Kind
  message : String
  file : Option String
  line : Option Nat
  witness : Option Json
  message_ne : message ≠ ""
  line_pos : ∀ n ∈ line, 0 < n
  located_placed : kind.located = true → file.isSome ∧ line.isSome
  unlocated_unplaced : kind.located = false → file = none ∧ line = none

namespace Discrepancy

def lineErrors : Option Nat → List FieldError
  | some 0 => [{ loc := ["line"], issue := .greaterOrEqual 1 }]
  | _ => []

/-- Makes a discrepancy, checking the message and the line, then the place; the witness is
normalised. -/
def make? (kind : Kind) (message : String) (file : Option String) (line : Option Nat)
    (witness : Option Json) : Except (List FieldError) Discrepancy :=
  if hm : message = "" then
    .error ({ loc := ["message"], issue := .stringTooShort } :: lineErrors line)
  else if hl : ∀ n ∈ line, 0 < n then
    if h₁ : kind.located = true → file.isSome ∧ line.isSome then
      if h₂ : kind.located = false → file = none ∧ line = none then
        .ok ⟨kind, message, file, line, witness.map Json.normalize, hm, hl, h₁, h₂⟩
      else .error [{ loc := [], issue := .valueError (kind.name ++ " discrepancies carry no source location") }]
    else .error [{ loc := [], issue := .valueError (kind.name ++ " discrepancies require file and line") }]
  else .error (lineErrors line)

def fieldNames : List String := ["kind", "message", "file", "line", "witness"]

/-- Checks a mapping of fields as a discrepancy: each field, then keys that name no field, then
the location rule. -/
def ofData (entries : List (Data × Data)) : Except (List FieldError) Discrepancy :=
  let get := Data.lookup? entries
  let kindResult : Except (List FieldError) Kind :=
    match get "kind" with
    | none => .error [{ loc := ["kind"], issue := .missing }]
    | some (.str s) => match Kind.ofName? s with
      | some k => .ok k
      | none => .error [{ loc := ["kind"], issue := .oneOf (Kind.all.map Kind.name) }]
    | some _ => .error [{ loc := ["kind"], issue := .oneOf (Kind.all.map Kind.name) }]
  let messageResult : Except (List FieldError) String :=
    match get "message" with
    | none => .error [{ loc := ["message"], issue := .missing }]
    | some v => match Lenient.string v with
      | .ok s => if s.isEmpty then .error [{ loc := ["message"], issue := .stringTooShort }] else .ok s
      | .error i => .error [{ loc := ["message"], issue := i }]
  let fileResult : Except (List FieldError) (Option String) :=
    match get "file" with
    | none | some .null => .ok none
    | some v => match Lenient.string v with
      | .ok s => .ok (some s)
      | .error i => .error [{ loc := ["file"], issue := i }]
  let lineResult : Except (List FieldError) (Option Nat) :=
    match get "line" with
    | none | some .null => .ok none
    | some v => match Lenient.int v with
      | .ok n =>
        if n < 1 then .error [{ loc := ["line"], issue := .greaterOrEqual 1 }] else .ok (some n.toNat)
      | .error i => .error [{ loc := ["line"], issue := i }]
  let witnessResult : Except (List FieldError) (Option Json) :=
    match get "witness" with
    | none | some .null => .ok none
    | some v => match v.toJson? with
      | .ok j => .ok (some j)
      | .error m => .error [{ loc := ["witness"], issue := .valueError m }]
  let errorsOf := fun {α : Type} (r : Except (List FieldError) α) => match r with
    | .error es => es
    | .ok _ => []
  let errors := errorsOf kindResult ++ errorsOf messageResult ++ errorsOf fileResult ++
    errorsOf lineResult ++ errorsOf witnessResult ++ extraKeys fieldNames entries
  match kindResult, messageResult, fileResult, lineResult, witnessResult with
  | .ok kind, .ok message, .ok file, .ok line, .ok witness =>
    if errors.isEmpty then make? kind message file line witness else .error errors
  | _, _, _, _, _ => .error errors

/-- The discrepancy as a JSON object, without absent fields. -/
def toJson (d : Discrepancy) : Json :=
  .obj ([("kind", .str d.kind.name), ("message", .str d.message)] ++
    (d.file.map fun f => [("file", Json.str f)]).getD [] ++
    (d.line.map fun n => [("line", Json.int n)]).getD [] ++
    (d.witness.map fun w => [("witness", w)]).getD [])

end Discrepancy

end DiagnosticCheck
