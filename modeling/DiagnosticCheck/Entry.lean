import DiagnosticCheck.Text.Unicode.Space

/-!
# The parts of an entry

A well-formed entry is one line `place: text(checker)`: a place without ASCII whitespace, a colon
and a space, the message text, and the name of the checker in parentheses at the end, again
without ASCII whitespace. The place ends at the entry's first whitespace, which must be the space
after the colon; the checker follows the last `(` that leaves a non-empty, whitespace-free name
before the closing parenthesis.
-/

namespace DiagnosticCheck.Entry

open Text.Unicode

/-- Whether a character may stand in a place or a checker name: it is not ASCII whitespace. -/
def isWordChar (c : Char) : Bool :=
  !isAsciiSpace c

/-- The checker name and the text before it, given the characters after `place: `. -/
def splitChecker (after : List Char) : Option (List Char × List Char) :=
  match after.getLast? with
  | some ')' =>
    let body := after.dropLast
    let runRev := (body.reverse.takeWhile isWordChar)
    match runRev with
    | [] => none
    | last :: earlier =>
      match earlier.idxOf? '(' with
      | none => none
      | some i =>
        let checker := (last :: earlier.take i).reverse
        some (body.take (body.length - (i + 2)), checker)
  | _ => none

/-- The message text and the checker of a well-formed entry. -/
def decompose (entry : String) : Option (String × String) :=
  let cs := entry.toList
  if cs.contains '\n' then none
  else
    match cs.span isWordChar with
    | (place, ' ' :: after) =>
      if 2 ≤ place.length ∧ place.getLast? = some ':' then
        (splitChecker after).map fun (t, c) => (String.ofList t, String.ofList c)
      else none
    | _ => none

example : decompose "x.go:3: undefined: x (vet)" = some ("undefined: x ", "vet") := by decide
example : decompose "a: b (c(d))" = some ("b (c", "d)") := by decide
example : decompose "a: b ()" = none := by decide

end DiagnosticCheck.Entry
