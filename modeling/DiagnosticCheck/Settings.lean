import DiagnosticCheck.Validation
import DiagnosticCheck.Output
import DiagnosticCheck.Json

/-!
# Settings

The settings of a check: the checker expected where an annotation names none, whether entries
from generated code are kept, and the prefixes of noise lines. Each has a default; loaded settings
name only these four keys, and no noise prefix is empty.
-/

namespace DiagnosticCheck

/-- The settings of a check. -/
structure Settings where
  defaultChecker : String := ""
  wantAuto : Bool := false
  prefixes : NoisePrefixes := {}
  deriving Repr

namespace Settings

def keys : List String := ["default_checker", "want_auto", "banner_prefixes", "comment_prefixes"]

/-- A list of noise prefixes, none of them empty. -/
def prefixList (field : String) (v : Data) : Except (List FieldError) (List String) := do
  let items ← Lenient.stringList field v
  if items.any (· = "") then
    throw [{ loc := [field], issue := .valueError "noise line prefixes must be non-empty strings" }]
  return items

def errorsOf {α : Type} : Except (List FieldError) α → List FieldError
  | .error es => es
  | .ok _ => []

/-- A checked field of a mapping, or its default when the key is absent. -/
def field {α : Type} (entries : List (Data × Data)) (name : String) (d : α)
    (check : Data → Except Issue α) : Except (List FieldError) α :=
  match Data.lookup? entries name with
  | none => .ok d
  | some v => (check v).mapError fun issue => [{ loc := [name], issue }]

/-- Checks a mapping as settings: each key in turn, then keys that name no setting; a key that
cannot be read as a name stops the check. -/
def ofData (entries : List (Data × Data)) : Except (List FieldError) Settings :=
  if unreadableKey entries then .error [unreadableKeyError] else
  let checker := field entries "default_checker" "" Lenient.string
  let auto := field entries "want_auto" false Lenient.bool
  let banner := match Data.lookup? entries "banner_prefixes" with
    | none => .ok ({} : NoisePrefixes).banner
    | some v => prefixList "banner_prefixes" v
  let comment := match Data.lookup? entries "comment_prefixes" with
    | none => .ok ({} : NoisePrefixes).comment
    | some v => prefixList "comment_prefixes" v
  let errors := errorsOf checker ++ errorsOf auto ++ errorsOf banner ++ errorsOf comment ++
    extraKeys keys entries
  match checker, auto, banner, comment with
  | .ok c, .ok a, .ok b, .ok m =>
    if errors.isEmpty then .ok { defaultChecker := c, wantAuto := a, prefixes := ⟨b, m⟩ }
    else .error errors
  | _, _, _, _ => .error errors

def toJson (s : Settings) : Json :=
  .obj [("banner_prefixes", .arr (s.prefixes.banner.map .str)),
    ("comment_prefixes", .arr (s.prefixes.comment.map .str)),
    ("default_checker", .str s.defaultChecker), ("want_auto", .bool s.wantAuto)]

end Settings

end DiagnosticCheck
