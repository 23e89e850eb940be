import DiagnosticCheck.Text.Basic

/-!
# Tool output and its entries

A tool prints one error per line, and continues an error's message on further lines that start
with a tab. Splitting the output gives its entries: each entry is an error line with the tab lines
that follow it. Noise lines never start an entry: lines with a banner or comment prefix, lines of
generated code unless those are wanted, and blank lines. A tab line still continues the last entry
when noise lines stand between them.
-/

namespace DiagnosticCheck

def autogenerated : String := "<autogenerated>"

/-- The banner and comment prefixes that mark noise lines by default. -/
structure NoisePrefixes where
  banner : List String := ["go tool"]
  comment : List String := ["#"]
  deriving Repr, DecidableEq

namespace Output

def dropCarriageReturns (line : String) : String :=
  String.ofList (line.toList.reverse.dropWhile (· = '\r')).reverse

def lines (output : String) : List String :=
  (Text.splitOnChar output '\n').map dropCarriageReturns

def hasPrefix (prefixes : List String) (line : String) : Bool :=
  prefixes.any (Text.startsWith line ·)

/-- Whether a line may start an entry: it has no noise prefix, is not from generated code unless
`wantAuto`, and is not blank. -/
def startsEntry (noise : List String) (wantAuto : Bool) (line : String) : Bool :=
  !hasPrefix noise line && (wantAuto || !Text.startsWith line autogenerated) &&
    !(Text.strip line).isEmpty

/-- Takes one line into the entries found so far, the latest entry first. -/
def step (noise : List String) (wantAuto : Bool) : List String → String → List String
  | last :: earlier, line =>
    if Text.startsWith line "\t" then (last ++ "\n" ++ line) :: earlier
    else if startsEntry noise wantAuto line then line :: last :: earlier
    else last :: earlier
  | [], line => if startsEntry noise wantAuto line then [line] else []

def entries (output : String) (wantAuto : Bool) (prefixes : NoisePrefixes := {}) : List String :=
  ((lines output).foldl (step (prefixes.banner ++ prefixes.comment) wantAuto) []).reverse

end Output

end DiagnosticCheck
