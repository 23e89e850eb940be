import DiagnosticCheck.Yaml.Mark

/-!
# Events of a YAML text

The parser turns tokens into events: the ends of the stream and of documents, aliases, scalars,
and the starts and ends of sequences and mappings. A node's event carries its anchor and tag, if
any; a scalar also says whether its type may be guessed from its text (a plain scalar without a
tag) or only taken as a string (a quoted one without a tag).
-/

namespace DiagnosticCheck.Yaml

/-- The kinds of event. -/
inductive EventKind where
  | streamStart
  | streamEnd
  | documentStart (explicit : Bool)
  | documentEnd (explicit : Bool)
  | alias (anchor : String)
  | scalar (anchor tag : Option String) (implicit : Bool × Bool) (value : String)
      (style : Option Char)
  | sequenceStart (anchor tag : Option String) (implicit flow : Bool)
  | sequenceEnd
  | mappingStart (anchor tag : Option String) (implicit flow : Bool)
  | mappingEnd
  deriving Repr

/-- An event with the marks where it starts and ends. -/
structure Event where
  kind : EventKind
  start : Mark
  stop : Mark
  deriving Repr

def Event.emptyScalar (m : Mark) : Event :=
  ⟨.scalar none none (true, false) "" none, m, m⟩

end DiagnosticCheck.Yaml
