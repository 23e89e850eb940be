import DiagnosticCheck.Check
import DiagnosticCheck.Settings.Load

/-!
# The command line

Two commands. `check SOURCE... --output PATH` checks a tool's output (a file, or `-` for standard
input) against the annotated sources and prints the report, as text or as one JSON line; it exits
with 0 when the check passes, 1 when it finds discrepancies and 2 when a source, the output or the
settings file cannot be used. `expectations SOURCE...` prints the expected errors of the sources,
one line each. A source is `FULL` or `FULL=SHORT`, the short name defaulting to the last part of
the path.

Arguments are read the usual way: options anywhere, `--name=value` or `--name value`, `--` ending
the options; a wrong command line prints nothing and exits with 2. `--help`, to the program before
a command's name or to a command, prints the help page and exits with 0 before anything else is
looked at.

`check` runs in two stages: `setup` reads the command line, the settings file and the output into
the call it makes, or stops with what stopped it, and the check then runs on that call.
-/

namespace DiagnosticCheck

/-- What a run prints and its exit code. -/
structure Outcome where
  exitCode : Nat
  stdout : String
  deriving Repr, DecidableEq

/-- An option of a command: its name, the setting it gives (its name unless said), and the value
it gives when it takes none. -/
structure OptionSpec where
  name : String
  dest : String := name
  flag : Option String := none

/-- A command line read into its options (the last given value of each) and its arguments. -/
structure Arguments where
  options : List (String × String) := []
  positional : List String := []
  deriving DecidableEq

namespace Arguments

def get? (a : Arguments) (name : String) : Option String :=
  a.options.lookup name

def put (a : Arguments) (name value : String) : Arguments :=
  { a with options := (name, value) :: a.options.filter (·.1 ≠ name) }

/-- Reads arguments by the options of a command: `none` for an unknown option, a missing value,
or a value given to a flag. -/
def parse (specs : List OptionSpec) : List String → Arguments → Option Arguments
  | [], acc => some acc
  | "--" :: rest, acc => some { acc with positional := acc.positional ++ rest }
  | arg :: rest, acc =>
    if arg.length > 1 ∧ Text.startsWith arg "-" then
      let name := String.ofList (arg.toList.takeWhile (· ≠ '='))
      let explicit := match arg.toList.dropWhile (· ≠ '=') with
        | '=' :: v => some (String.ofList v)
        | _ => none
      match specs.find? (·.name = name) with
      | none => none
      | some spec =>
        match spec.flag, explicit with
        | some v, none => parse specs rest (acc.put spec.dest v)
        | some _, some _ => none
        | none, some v => parse specs rest (acc.put spec.dest v)
        | none, none =>
          match rest with
          | v :: more => parse specs more (acc.put spec.dest v)
          | [] => none
    else parse specs rest { acc with positional := acc.positional ++ [arg] }

def asksHelp (a : Arguments) : Bool :=
  (a.get? "--help").isSome

end Arguments

namespace Command

def usageError : Outcome := ⟨2, ""⟩

/-- The option every command and the program itself take, which prints a help page and exits
with 0 before anything else on the command line is looked at. -/
def helpOption : OptionSpec := { name := "--help", flag := some "true" }

def checkOptions : List OptionSpec :=
  [{ name := "--output" }, { name := "--default-checker" },
    { name := "--want-auto", flag := some "true" }, { name := "--no-want-auto", dest := "--want-auto", flag := some "false" },
    { name := "--config" }, { name := "--format" }, { name := "--verbose", flag := some "true" },
    helpOption]

def expectationsOptions : List OptionSpec :=
  [{ name := "--default-checker" }, helpOption]

def line (s : String) : String := s ++ "\n"

/-- A help page: how a command is called, what it does, and its sections of arguments, options
or commands, each entry with what it is for. -/
structure HelpPage where
  usage : String
  summary : String
  sections : List (String × List (String × String))

def HelpPage.render (p : HelpPage) : String :=
  line ("Usage: " ++ p.usage) ++ "\n" ++ line ("  " ++ p.summary) ++
    String.join (p.sections.map fun s =>
      "\n" ++ line (s.1 ++ ":") ++ String.join (s.2.map fun e => line ("  " ++ e.1 ++ "  " ++ e.2)))

def helpEntry : String × String := ("--help", "Show this message and exit.")

def sourcesEntry : String × String :=
  ("SOURCES...", "Annotated source file as FULL or FULL=SHORT (SHORT defaults to the base name)")

def appHelp : HelpPage where
  usage := "errchk [OPTIONS] COMMAND [ARGS]..."
  summary := "Match tool diagnostics against // ERROR annotations"
  sections := [("Options", [helpEntry]),
    ("Commands", [("check", "Check tool output against the annotated sources."),
      ("expectations", "List the expected errors annotated in the sources.")])]

def checkHelp : HelpPage where
  usage := "errchk check [OPTIONS] SOURCES..."
  summary := "Check tool output against the annotated sources."
  sections := [("Arguments", [sourcesEntry]),
    ("Options", [("--output TEXT", "File holding the tool output, '-' for stdin"),
      ("--default-checker TEXT", "Checker expected when an annotation names none"),
      ("--want-auto / --no-want-auto", "Keep <autogenerated> entries for ERRORAUTO annotations"),
      ("--config TEXT", "YAML errchk config"),
      ("--format TEXT", "Check output format: text|json"),
      ("--verbose", "Log debug details to stderr"), helpEntry])]

def expectationsHelp : HelpPage where
  usage := "errchk expectations [OPTIONS] SOURCES..."
  summary := "List the expected errors annotated in the sources."
  sections := [("Arguments", [sourcesEntry]),
    ("Options", [("--default-checker TEXT", "Checker expected when an annotation names none"),
      helpEntry])]

/-- Reads the options given before a command's name: `--help`, and `--` that ends them; `none` for
any other option. The rest is the command and its own command line. -/
def appOptions : List String → Option (Bool × List String)
  | [] => some (false, [])
  | "--" :: rest => some (false, rest)
  | "--help" :: rest => (appOptions rest).map fun r => (true, r.2)
  | arg :: rest =>
    if arg.length > 1 ∧ Text.startsWith arg "-" then none else some (false, arg :: rest)

/-- The sources named on the command line, or `none` for one without a path or a file name. -/
def sources (raw : List String) : Option (List SourceFile) :=
  raw.mapM fun r =>
    let full := String.ofList (r.toList.takeWhile (· ≠ '='))
    let short := match r.toList.dropWhile (· ≠ '=') with
      | '=' :: s => String.ofList s
      | _ => ""
    if full = "" then none
    else if h : short ≠ "" then some ⟨full, short, h⟩
    else
      match SourceFile.ofPath? full with
      | .ok s => some s
      | .error _ => none

def trimLineFeeds (s : String) : String :=
  String.ofList (((s.toList.dropWhile (· = '\n')).reverse.dropWhile (· = '\n')).reverse)

def resultJson (v : Verdict) (exitCode : Nat) : Json :=
  .obj [("schema_version", .int 1), ("status", .str (if v.passed then "pass" else "fail")),
    ("exit_code", .int exitCode), ("discrepancies", .arr (v.discrepancies.map Discrepancy.toJson)),
    ("unmatched", .arr (v.unmatched.map .str))]

/-- Why a check printed an error instead of a report. -/
def fixtureLine (f : FixtureError) : Outcome :=
  ⟨2, line ("fixture error: " ++ f.message)⟩

/-- The output and the format of a command line that `check` takes: it names an output and at
least one source, and asks for text (the default) or JSON. -/
def accepted? (a : Arguments) : Option (String × String) :=
  match a.get? "--output" with
  | none => none
  | some output =>
    let format := (a.get? "--format").getD "text"
    if a.positional.isEmpty ∨ (format ≠ "text" ∧ format ≠ "json") then none
    else some (output, format)

/-- Where `check` stops before it runs the check. -/
inductive Stop where
  | help
  | usage
  | settings (e : SettingsError)
  | unread (path : String) (failure : ReadFailure)
  | undecodable
  deriving Repr, DecidableEq

/-- What the check is run on: the tool's output, whether generated code is kept, the default
checker, the sources and the settings' noise prefixes; and the format of the report. -/
structure Call where
  output : String
  wantAuto : Bool
  defaultChecker : String
  sources : List SourceFile
  prefixes : NoisePrefixes
  format : String

def Call.run (w : Workspace) (c : Call) : Except CheckError Verdict :=
  Check.run w c.output c.wantAuto c.defaultChecker c.sources c.prefixes

def loadSettings (w : Workspace) (a : Arguments) : Except Stop Settings :=
  match a.get? "--config" with
  | none => .ok {}
  | some path => (Settings.load w path).mapError .settings

/-- The text of a tool's output: standard input for `-`, else the file decoded as UTF-8, with line
ends made line feeds. -/
def readOutput (w : Workspace) (stdin output : String) : Except Stop String :=
  if output = "-" then .ok (String.ofList (Text.translateNewlines stdin.toList))
  else
    match w.readBytes output with
    | .error failure => .error (.unread output failure)
    | .ok bytes =>
      match Text.decodeUtf8 bytes with
      | .ok s => .ok (String.ofList (Text.translateNewlines s.toList))
      | .error _ => .error .undecodable

/-- Reads the arguments of `check` into the call it makes, in the order the command goes: the
command line, the settings, the output, the sources. The options' checker and choice of generated
code win over the settings'. -/
def setup (w : Workspace) (stdin : String) (a : Arguments) : Except Stop Call :=
  match accepted? a with
  | none => .error .usage
  | some (output, format) => do
    let settings ← loadSettings w a
    let text ← readOutput w stdin output
    match sources a.positional with
    | none => .error .usage
    | some srcs =>
      .ok {
        output := text
        wantAuto := ((a.get? "--want-auto").map fun v => decide (v = "true")).getD
          settings.wantAuto
        defaultChecker := (a.get? "--default-checker").getD settings.defaultChecker
        sources := srcs
        prefixes := settings.prefixes
        format := format }

def checkSetup (w : Workspace) (stdin : String) (args : List String) : Except Stop Call :=
  match Arguments.parse checkOptions args {} with
  | none => .error .usage
  | some a => if a.asksHelp then .error .help else setup w stdin a

/-- What the check's verdict prints, and its exit code: 0 when it passes, else 1. -/
def printVerdict (v : Verdict) (format : String) : Outcome :=
  let code := if v.passed then 0 else 1
  if format = "json" then ⟨code, line (resultJson v code).compact⟩
  else
    match v.report with
    | some r => ⟨code, line (trimLineFeeds r)⟩
    | none => ⟨code, ""⟩

/-- What `check` prints once the check has run: the fixture error of a source, nothing for an
error that nothing catches (exit code 1), or the verdict. -/
def printRun (format : String) : Except CheckError Verdict → Outcome
  | .error (.source (.fixture f)) => fixtureLine f
  | .error _ => ⟨1, ""⟩
  | .ok v => printVerdict v format

/-- What `check` prints when it stops before the check: the help page with exit code 0; a line
and 2 for what it catches, a settings error with a code and an output file that cannot be read;
nothing and 1 for the rest, which nothing catches: a settings file that is not UTF-8 or whose
loading crashes, a NUL in the output's path, an output file that is not UTF-8. -/
def Stop.outcome : Stop → Outcome
  | .help => ⟨0, checkHelp.render⟩
  | .usage => usageError
  | .settings (.undecodable _) | .settings (.crash _) => ⟨1, ""⟩
  | .settings e => ⟨2, line ("config error: " ++ e.code ++ ": " ++ e.message)⟩
  | .unread _ .nulInPath => ⟨1, ""⟩
  | .unread path failure =>
    ⟨2, line ("fixture error: unable to read tool output '" ++ path ++ "': " ++ failure.message)⟩
  | .undecodable => ⟨1, ""⟩

def check (w : Workspace) (stdin : String) (args : List String) : Outcome :=
  match checkSetup w stdin args with
  | .error stop => stop.outcome
  | .ok call => printRun call.format (call.run w)

def expectationLine (e : Expectation) : String :=
  line ("EXPECT file=" ++ e.ownerFile ++ " line=" ++ toString e.sourceLine ++ " checker=" ++
    e.checkerName ++ " auto=" ++ (if e.auto then "true" else "false") ++ " pattern=" ++ e.pattern)

/-- Prints the expected errors of sources in order, stopping at the first that cannot be read. -/
def listExpectations (w : Workspace) (defaultChecker : String) : List SourceFile → String → Outcome
  | [], out => ⟨0, out⟩
  | s :: rest, out =>
    match Directive.parseFile w s.fullPath s.shortName defaultChecker with
    | .ok es => listExpectations w defaultChecker rest (out ++ String.join (es.map expectationLine))
    | .error (.fixture f) => ⟨2, out ++ line ("fixture error: " ++ f.message)⟩
    | .error (.expectation _) | .error (.crash _) => ⟨1, out⟩

/-- Runs `expectations` on its command line. -/
def expectations (w : Workspace) (args : List String) : Outcome :=
  match Arguments.parse expectationsOptions args {} with
  | none => usageError
  | some a =>
    if a.asksHelp then ⟨0, expectationsHelp.render⟩
    else if a.positional.isEmpty then usageError
    else
      match sources a.positional with
      | none => usageError
      | some srcs => listExpectations w ((a.get? "--default-checker").getD "") srcs ""

end Command

/-- Runs a command line over a workspace and a standard input. -/
def Command.run (w : Workspace) (stdin : String) (args : List String) : Outcome :=
  match Command.appOptions args with
  | none => Command.usageError
  | some (true, _) => ⟨0, Command.appHelp.render⟩
  | some (false, "check" :: rest) => Command.check w stdin rest
  | some (false, "expectations" :: rest) => Command.expectations w rest
  | some (false, _) => Command.usageError

end DiagnosticCheck
