import DiagnosticCheck.Settings
import DiagnosticCheck.Workspace
import DiagnosticCheck.Yaml.Load

/-!
# Settings files

Settings are read from a YAML file: read as UTF-8 text with line ends made line feeds, loaded,
and checked. An empty file gives the defaults; a file whose document is not a mapping is refused.
Every fault but an undecodable file carries a code and names the file by its path in normal form.
-/

namespace DiagnosticCheck

/-- Why settings cannot be loaded from a file. -/
inductive SettingsError where
  | unreadable (path : String) (failure : ReadFailure)
  | undecodable (e : Text.Utf8Error)
  | unparsable (path : String) (message : String)
  | notMapping (path : String)
  | invalid (path : String) (errors : List FieldError)
  | crash (c : Crash)
  deriving Repr, DecidableEq

namespace SettingsError

/-- The code of a settings error. -/
def code : SettingsError → String
  | .unreadable _ _ => "E_CONFIG_READ_FAILED"
  | .unparsable _ _ => "E_CONFIG_PARSE_FAILED"
  | .notMapping _ | .invalid _ _ => "E_CONFIG_INVALID"
  | .undecodable _ | .crash _ => ""

/-- What went wrong, in words. -/
def message : SettingsError → String
  | .unreadable path failure => "unable to read errchk config '" ++ path ++ "': " ++ failure.message
  | .undecodable e => e.message
  | .unparsable path m => "unable to parse errchk config '" ++ path ++ "': " ++ m
  | .notMapping path => "errchk config root must be a mapping: " ++ path
  | .invalid path errors =>
    "invalid errchk config '" ++ path ++ "': " ++ toString errors.length ++
      " validation error(s): " ++ "; ".intercalate (errors.map FieldError.text)
  | .crash c => c.message

end SettingsError

namespace Settings

/-- Loads settings from the YAML file at a path. -/
def load (w : Workspace) (path : String) : Except SettingsError Settings := do
  let shown := normalPath path
  let bytes ← match w.readBytes shown with
    | .ok bytes => pure bytes
    | .error .nulInPath => throw (.crash ReadFailure.nulCrash)
    | .error failure => throw (.unreadable shown failure)
  let decoded ← (Text.decodeUtf8 bytes).mapError .undecodable
  let text := String.ofList (Text.translateNewlines decoded.toList)
  let value ← match Yaml.load text with
    | .ok v => pure v
    | .error (.badValue kind m) => throw (.crash ⟨kind, m⟩)
    | .error e => throw (.unparsable shown (Yaml.errorMessage text e))
  let entries ← match value with
    | .null => pure []
    | .map entries => pure entries
    | _ => throw (.notMapping shown)
  (ofData entries).mapError (.invalid shown)

end Settings

end DiagnosticCheck
