import DiagnosticCheck.Expectation
import DiagnosticCheck.Fixture

/-!
# Directives

A source line carries an annotation when it holds `// ERROR ` or `// GC_ERROR ` (or the `ERRORAUTO`
forms, which win when both occur), unless it holds `////`. The leftmost marker counts and the rest of
the line after it is read: an optional checker name (a run of characters other than ASCII
whitespace, `"` and the backquote, after optional ASCII whitespace), then a string literal, blanks
around it ignored. Reading a text gives the expected errors of its annotated lines in line order,
or the fault of the first annotated line that has one. A text compiles each of its patterns once
and takes it from a cache on the lines after.
-/

namespace DiagnosticCheck

/-- Why the annotations of a source cannot be read. -/
inductive DirectiveError where
  | fixture (f : FixtureError)
  | expectation (e : ExpectationError)
  | crash (c : Crash)
  deriving Repr, DecidableEq

namespace Directive

def disabled : String := "////"

/-- The text after the leftmost occurrence of one of the markers, if any occurs. -/
def afterMarker (markers : List (List Char)) : List Char → Option (List Char)
  | [] => if markers.any (·.isEmpty) then some [] else none
  | c :: cs =>
    match markers.find? (·.isPrefixOf (c :: cs)) with
    | some m => some ((c :: cs).drop m.length)
    | none => afterMarker markers cs

def autoMarkers : List (List Char) :=
  ["// ERRORAUTO ".toList, "// GC_ERRORAUTO ".toList]

def lineMarkers : List (List Char) :=
  ["// ERROR ".toList, "// GC_ERROR ".toList]

/-- Whether a line is annotated, with the rest of the line after the marker. -/
def find? (line : List Char) : Option (Bool × List Char) :=
  if (afterMarker [disabled.toList] line).isSome then none
  else
    match afterMarker autoMarkers line with
    | some rest => some (true, rest)
    | none => (afterMarker lineMarkers line).map (false, ·)

def isCheckerChar (c : Char) : Bool :=
  !Text.Unicode.isAsciiSpace c && c ≠ '"' && c ≠ backquote

/-- The checker name at the start of the rest of an annotation, and what follows it. -/
def checkerPrefix (rest : List Char) : Option (List Char × List Char) :=
  let body := rest.dropWhile Text.Unicode.isAsciiSpace
  match body.takeWhile isCheckerChar with
  | [] => none
  | name => some (name, body.drop name.length)

/-- Reads the annotation of line `n`, if it has one, compiling its pattern with `compile`. A pattern
that does not compile is a fixture error when the pattern is at fault, and a crash when the
compiler refuses a value in it. -/
def parseLine (origin shortName defaultChecker : String) (n : Nat) (line : String)
    (compile : String → Except Regex.Error Regex.Pattern := Regex.compile) :
    Except DirectiveError (Option Expectation) :=
  match find? line.toList with
  | none => .ok none
  | some (auto, rest) =>
    let (checker, rest) := match checkerPrefix rest with
      | some (name, after) => (String.ofList name, after)
      | none => (defaultChecker, rest)
    match Literal.decode (Text.strip (String.ofList rest)) with
    | .error e => .error (.fixture (.literalInvalid origin n (Text.strip line) e))
    | .ok pattern =>
      match compile pattern with
      | .error e =>
        match e.fault.raised with
        | .pattern => .error (.fixture (.regexInvalid origin n pattern e))
        | .value => .error (.crash ⟨.value, e.fault.text⟩)
        | .overflow => .error (.crash ⟨.overflow, e.fault.text⟩)
      | .ok regex =>
        match Expectation.make? pattern regex n auto shortName checker with
        | .error e => .error (.expectation e)
        | .ok x => .ok (some x)

/-- Reads the annotations of lines from number `n` on, each pattern compiled afresh. -/
def parseLines (origin shortName defaultChecker : String) :
    Nat → List String → Except DirectiveError (List Expectation)
  | _, [] => .ok []
  | n, line :: rest => do
    let here ← parseLine origin shortName defaultChecker n line
    let later ← parseLines origin shortName defaultChecker (n + 1) rest
    return here.toList ++ later

/-- Compiles a pattern, unless the cache of the patterns compiled before holds it. -/
def compileCached (cache : List (String × Regex.Pattern)) (pattern : String) :
    Except Regex.Error Regex.Pattern :=
  match cache.lookup pattern with
  | some regex => .ok regex
  | none => Regex.compile pattern

/-- The cache once a line is read: the pattern of its expected error is added with its compiled
form, unless the cache holds it already. -/
def remember (cache : List (String × Regex.Pattern)) :
    Option Expectation → List (String × Regex.Pattern)
  | some x => if (cache.lookup x.pattern).isSome then cache else (x.pattern, x.regex) :: cache
  | none => cache

/-- Reads the annotations of lines from number `n` on, compiling each pattern once: `cache` holds
the patterns compiled on the lines before. -/
def parseLinesCached (origin shortName defaultChecker : String) :
    List (String × Regex.Pattern) → Nat → List String → Except DirectiveError (List Expectation)
  | _, _, [] => .ok []
  | cache, n, line :: rest => do
    let here ← parseLine origin shortName defaultChecker n line (compileCached cache)
    let later ← parseLinesCached origin shortName defaultChecker (remember cache here) (n + 1) rest
    return here.toList ++ later

/-- The expected errors annotated in a text, whose errors name `source` if given, else the short
name. The patterns are compiled through a cache that lives for the one text. -/
def parseText (text shortName defaultChecker : String) (source : Option String := none) :
    Except DirectiveError (List Expectation) :=
  parseLinesCached (source.getD shortName) shortName defaultChecker [] 1
    (Text.splitOnChar text '\n')

/-- The expected errors annotated in the source file at `fullPath`. -/
def parseFile (w : Workspace) (fullPath shortName defaultChecker : String) :
    Except DirectiveError (List Expectation) :=
  match w.readText (normalPath fullPath) with
  | .error .nulInPath => .error (.crash ReadFailure.nulCrash)
  | .error failure => .error (.fixture (.readFailed fullPath failure))
  | .ok text => parseText text shortName defaultChecker (some fullPath)

end Directive

end DiagnosticCheck
