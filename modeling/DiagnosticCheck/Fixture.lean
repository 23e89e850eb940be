import DiagnosticCheck.Literal
import DiagnosticCheck.Regex.Error
import DiagnosticCheck.Workspace

/-!
# Fixture errors

A source file that cannot be read, or an annotation whose literal or pattern is malformed, stops a
check. Each such error has a code, a message that starts with the code, the file it concerns, and
for annotations the line.
-/

namespace DiagnosticCheck

/-- Why the annotated sources cannot be used. -/
inductive FixtureError where
  | readFailed (path : String) (failure : ReadFailure)
  | literalInvalid (origin : String) (line : Nat) (lineText : String) (e : LiteralError)
  | regexInvalid (origin : String) (line : Nat) (pattern : String) (e : Regex.Error)
  deriving Repr, DecidableEq

namespace FixtureError

def code : FixtureError → String
  | .readFailed _ _ => "E_FIXTURE_READ_FAILED"
  | .literalInvalid _ _ _ _ => "E_FIXTURE_LITERAL_INVALID"
  | .regexInvalid _ _ _ _ => "E_FIXTURE_REGEX_INVALID"

/-- What went wrong, in words. -/
def detail : FixtureError → String
  | .readFailed path failure =>
    "unable to read source file '" ++ path ++ "': " ++ failure.message
  | .literalInvalid origin line text e =>
    origin ++ ":" ++ toString line ++ ": invalid errchk line: " ++ text ++ ", " ++ e.message
  | .regexInvalid origin line pattern e =>
    origin ++ ":" ++ toString line ++ ": invalid regexp " ++ Literal.quote pattern ++
      " in ERROR line: " ++ e.message pattern

def message (f : FixtureError) : String :=
  f.code ++ ": " ++ f.detail

def file : FixtureError → String
  | .readFailed path _ => path
  | .literalInvalid origin _ _ _ => origin
  | .regexInvalid origin _ _ _ => origin

def line : FixtureError → Option Nat
  | .readFailed _ _ => none
  | .literalInvalid _ n _ _ => some n
  | .regexInvalid _ n _ _ => some n

end FixtureError

end DiagnosticCheck
