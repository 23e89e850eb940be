import DiagnosticCheck.Yaml.Mark

/-!
# Tokens of a YAML text

The scanner cuts a text into tokens: the ends of the stream and of documents, directives, the
indicators of block and flow collections, keys, values and entries, anchors, aliases, tags and
scalars. A scalar is plain or has a style: single or double quoted, literal or folded. Each kind
of token has a name that errors quote.
-/

namespace DiagnosticCheck.Yaml

/-- The value of a directive: the version of a `%YAML` directive, the handle and prefix of a
`%TAG` directive, or nothing for another directive. -/
inductive DirectiveValue where
  | version (major minor : Nat)
  | tag (handle pfx : String)
  | none
  deriving Repr, DecidableEq

/-- The kinds of token. -/
inductive TokenKind where
  | streamStart
  | streamEnd
  | directive (name : String) (value : DirectiveValue)
  | documentStart
  | documentEnd
  | blockSequenceStart
  | blockMappingStart
  | blockEnd
  | flowSequenceStart
  | flowMappingStart
  | flowSequenceEnd
  | flowMappingEnd
  | key
  | value
  | blockEntry
  | flowEntry
  | alias (name : String)
  | anchor (name : String)
  | tag (handle : Option String) (suffix : String)
  | scalar (value : String) (plain : Bool) (style : Option Char)
  deriving Repr, DecidableEq

/-- The name of a kind of token, as errors quote it. -/
def TokenKind.name : TokenKind → String
  | .streamStart => "<stream start>"
  | .streamEnd => "<stream end>"
  | .directive _ _ => "<directive>"
  | .documentStart => "<document start>"
  | .documentEnd => "<document end>"
  | .blockSequenceStart => "<block sequence start>"
  | .blockMappingStart => "<block mapping start>"
  | .blockEnd => "<block end>"
  | .flowSequenceStart => "["
  | .flowMappingStart => "\x7b"
  | .flowSequenceEnd => "]"
  | .flowMappingEnd => "\x7d"
  | .key => "?"
  | .value => ":"
  | .blockEntry => "-"
  | .flowEntry => ","
  | .alias _ => "<alias>"
  | .anchor _ => "<anchor>"
  | .tag _ _ => "<tag>"
  | .scalar _ _ _ => "<scalar>"

/-- A token with the marks where it starts and ends. -/
structure Token where
  kind : TokenKind
  start : Mark
  stop : Mark
  deriving Repr

end DiagnosticCheck.Yaml

namespace DiagnosticCheck.Yaml

/-- The kinds of token without their contents, for tests on the next token. -/
inductive TokenShape where
  | streamStart | streamEnd | directive | documentStart | documentEnd | blockSequenceStart
  | blockMappingStart | blockEnd | flowSequenceStart | flowMappingStart | flowSequenceEnd
  | flowMappingEnd | key | value | blockEntry | flowEntry | alias | anchor | tag | scalar
  deriving Repr, DecidableEq

/-- The kind of a token without its contents. -/
def TokenKind.shape : TokenKind → TokenShape
  | .streamStart => .streamStart
  | .streamEnd => .streamEnd
  | .directive _ _ => .directive
  | .documentStart => .documentStart
  | .documentEnd => .documentEnd
  | .blockSequenceStart => .blockSequenceStart
  | .blockMappingStart => .blockMappingStart
  | .blockEnd => .blockEnd
  | .flowSequenceStart => .flowSequenceStart
  | .flowMappingStart => .flowMappingStart
  | .flowSequenceEnd => .flowSequenceEnd
  | .flowMappingEnd => .flowMappingEnd
  | .key => .key
  | .value => .value
  | .blockEntry => .blockEntry
  | .flowEntry => .flowEntry
  | .alias _ => .alias
  | .anchor _ => .anchor
  | .tag _ _ => .tag
  | .scalar _ _ _ => .scalar

end DiagnosticCheck.Yaml
