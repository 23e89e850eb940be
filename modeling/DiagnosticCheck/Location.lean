import DiagnosticCheck.Text.Basic

/-!
# Where an entry is reported

An entry starts with the place of the error, `file:line:`, where the file may carry a directory.
An entry is reported at a place `file:line` when, after dropping the directory part of the
entry's first field (everything up to the last `/` before the first `:`), the entry continues
with the place and a `:`. So `dir/x.go:5: …` is reported at `x.go:5` but neither at `x.go:50`
nor at `ax.go:5`.
-/

namespace DiagnosticCheck.Location

/-- What follows the last `/` of a text, or the whole text when it has none. -/
def afterLastSlash (cs : List Char) : List Char :=
  (cs.reverse.takeWhile (· ≠ '/')).reverse

/-- An entry without the directory part of its first field, when it has a `:` at all. -/
def withoutDirectory (entry : List Char) : Option (List Char) :=
  if entry.contains ':' then
    let field := entry.takeWhile (· ≠ ':')
    some (afterLastSlash field ++ entry.dropWhile (· ≠ ':'))
  else none

/-- Whether an entry is reported at a place: the entry without its directory part starts with
the place followed by `:`. -/
def reportedAt (entry place : String) : Bool :=
  match withoutDirectory entry.toList with
  | none => false
  | some rest => (place.toList ++ [':']).isPrefixOf rest

def partition (place : String) (entries : List String) : List String × List String :=
  entries.partition (reportedAt · place)

example : reportedAt "dir/x.go:5: m" "x.go:5" = true := by decide
example : reportedAt "dir/x.go:50: m" "x.go:5" = false := by decide
example : reportedAt "a/b:c/x.go:5: m" "x.go:5" = false := by decide

end DiagnosticCheck.Location
