import DiagnosticCheck.Verdict
import DiagnosticCheck.Directive
import DiagnosticCheck.Regex.Search

/-!
# Checking a tool's output

The whole check: the output is cut into entries, the full path of every source in an entry is
written as its short name (the sources in order, each replacement seeing the ones before), the
annotations of every source are read in order, and the entries are checked against the expected
errors they give, each pattern searching the entry's text.
-/

namespace DiagnosticCheck

/-- An annotated source: where it is read from, and the short name its errors are reported
under, which is never empty. -/
structure SourceFile where
  fullPath : String
  shortName : String
  shortName_ne : shortName ≠ ""

namespace SourceFile

/-- A source with a short name, which must not be empty. -/
def make? (fullPath shortName : String) : Except String SourceFile :=
  if h : shortName = "" then .error "source short_name must be non-empty"
  else .ok ⟨fullPath, shortName, h⟩

def ofPath? (fullPath : String) : Except String SourceFile :=
  make? fullPath (baseName fullPath)

def shorten (entry : String) (s : SourceFile) : String :=
  if s.fullPath = "" then entry else Text.replace entry s.fullPath s.shortName

end SourceFile

/-- Whether an expectation's pattern finds a text; a match with a broken span crashes. -/
def Expectation.finds (e : Expectation) (text : String) : Except Crash Bool :=
  match e.regex.search text with
  | .miss => .ok false
  | .hit => .ok true
  | .brokenSpan => .error ⟨.system, Regex.brokenSpanMessage⟩

/-- Why a check stopped without a verdict. -/
inductive CheckError where
  | source (e : DirectiveError)
  | verdict (e : Verdict.Failure)

namespace Check

def entries (output : String) (wantAuto : Bool) (prefixes : NoisePrefixes)
    (sources : List SourceFile) : List String :=
  (Output.entries output wantAuto prefixes).map fun entry => sources.foldl SourceFile.shorten entry

/-- The expected errors of the sources, in order. -/
def expectations (w : Workspace) (defaultChecker : String) :
    List SourceFile → Except DirectiveError (List Expectation)
  | [] => .ok []
  | s :: rest => do
    let here ← Directive.parseFile w s.fullPath s.shortName defaultChecker
    let later ← expectations w defaultChecker rest
    return here ++ later

/-- Checks a tool's output against the annotations of the sources. -/
def run (w : Workspace) (output : String) (wantAuto : Bool) (defaultChecker : String)
    (sources : List SourceFile) (prefixes : NoisePrefixes) : Except CheckError Verdict := do
  let found := entries output wantAuto prefixes sources
  let expected ← (expectations w defaultChecker sources).mapError .source
  (Verdict.ofEntries Expectation.finds found expected).mapError .verdict

end Check

end DiagnosticCheck
