import DiagnosticCheck.Regex.Compile
import DiagnosticCheck.Output

/-!
# Expected errors

An expected error is what one annotation asks for: a pattern (with its compiled form), the line
of the annotation, whether the error is expected in generated code instead of at that line, the
file that owns the annotation and the checker that must report the error. Its line is at least 1
and its owner is named, which the type keeps.
-/

namespace DiagnosticCheck

/-- An expected error. -/
structure Expectation where
  pattern : String
  regex : Regex.Pattern
  sourceLine : Nat
  auto : Bool
  ownerFile : String
  checkerName : String
  sourceLine_pos : 0 < sourceLine
  ownerFile_ne : ownerFile ≠ ""

/-- Why an expected error cannot be made. -/
inductive ExpectationError where
  | lineBelowOne
  | ownerEmpty
  deriving Repr, DecidableEq

def ExpectationError.message : ExpectationError → String
  | .lineBelowOne => "expected error source_line must be >= 1"
  | .ownerEmpty => "expected error owner_file must be non-empty"

namespace Expectation

/-- Makes an expected error, checking the line first and the owner second. -/
def make? (pattern : String) (regex : Regex.Pattern) (sourceLine : Int) (auto : Bool)
    (ownerFile checkerName : String) : Except ExpectationError Expectation :=
  if h : 0 < sourceLine then
    if h' : ownerFile ≠ "" then
      .ok { pattern, regex, sourceLine := sourceLine.toNat, auto, ownerFile, checkerName,
            sourceLine_pos := by omega, ownerFile_ne := h' }
    else .error .ownerEmpty
  else .error .lineBelowOne

def place (e : Expectation) : String :=
  e.ownerFile ++ ":" ++ toString e.sourceLine

def target (e : Expectation) : String :=
  if e.auto then autogenerated else e.place

end Expectation

end DiagnosticCheck
