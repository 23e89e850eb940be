import DiagnosticCheck.Text.Cite
import DiagnosticCheck.Text.Escape
import DiagnosticCheck.Crash

/-!
# Places and errors of a YAML text

A mark is a place in the loaded text: the offset of a character and its line and column, counted
from zero. An error names what it was doing (its context, with the mark where that began) and what
went wrong (its problem, with the mark where it was found). Its text shows each mark with the line
it stands on, cut to about 75 characters around the mark, and a caret under it; the context's mark
is left out when it is the problem's.

The text is read as its characters followed by a NUL, which stands for the end.
-/

namespace DiagnosticCheck.Yaml

/-- A place in the loaded text. -/
structure Mark where
  index : Nat
  line : Nat
  column : Nat
  deriving Repr, DecidableEq, Inhabited

def endsShownLine (c : Char) : Bool :=
  c = '\x00' || c = '\r' || c = '\n' || c = '\x85' || c = '\u2028' || c = '\u2029'

/-- The number of characters right before `pos` that end no line, counting at most `limit`. -/
def runBefore (text : Array Char) (pos : Nat) : (limit : Nat) → Nat
  | 0 => 0
  | limit + 1 =>
    match pos with
    | 0 => 0
    | p + 1 => if endsShownLine (text.getD p '\x00') then 0 else runBefore text p limit + 1

/-- The number of characters from `pos` on that end no line, counting at most `limit`. -/
def runAfter (text : Array Char) (pos : Nat) : (limit : Nat) → Nat
  | 0 => 0
  | limit + 1 => if endsShownLine (text.getD pos '\x00') then 0 else runAfter text (pos + 1) limit + 1

namespace Mark

/-- The line around a mark, indented by four blanks, with a caret under the mark on the next line.
More than 36 characters on a side are cut to 32, and the cut is shown as ` ... `. -/
def snippet (text : Array Char) (m : Mark) : String :=
  let back := runBefore text m.index 37
  let (head, start) := if back ≥ 37 then (" ... ", m.index - 32) else ("", m.index - back)
  let ahead := runAfter text m.index 37
  let (tail, stop) := if ahead ≥ 37 then (" ... ", m.index + 32) else ("", m.index + ahead)
  let body := String.ofList (text.extract start stop).toList
  "    " ++ head ++ body ++ tail ++ "\n" ++
    String.ofList (List.replicate (4 + (m.index - start) + head.length) ' ') ++ "^"

def describe (text : Array Char) (m : Mark) : String :=
  "  in \"<unicode string>\", line " ++ toString (m.line + 1) ++ ", column " ++
    toString (m.column + 1) ++ ":\n" ++ m.snippet text

end Mark

/-- What went wrong while loading, and where. -/
structure Problem where
  context : Option String := none
  contextMark : Option Mark := none
  problem : Option String := none
  problemMark : Option Mark := none
  deriving Repr

/-- Why a text cannot be loaded. -/
inductive Error where
  | unacceptable (position code : Nat)
  | marked (p : Problem)
  | badValue (kind : Crash.Kind) (message : String)
  deriving Repr

def Error.at (context : Option String) (contextMark : Option Mark) (problem : String)
    (problemMark : Mark) : Error :=
  .marked { context, contextMark, problem := some problem, problemMark := some problemMark }

/-- The text of a problem: the context, its mark unless the problem's mark is the same place, the
problem and its mark, one per line. -/
def Problem.message (text : Array Char) (p : Problem) : String :=
  let showContextMark := match p.contextMark, p.problem, p.problemMark with
    | some c, some _, some m => c.line != m.line || c.column != m.column
    | some _, _, _ => true
    | none, _, _ => false
  let lines := p.context.toList ++
    (if showContextMark then (p.contextMark.map (·.describe text)).toList else []) ++
    p.problem.toList ++ (p.problemMark.map (·.describe text)).toList
  "\n".intercalate lines

/-- The text of a loading error. -/
def Error.message (text : Array Char) : Error → String
  | .unacceptable position code =>
    "unacceptable character #x" ++ String.ofList (Text.hexDigits 4 code) ++
      ": special characters are not allowed\n  in \"<unicode string>\", position " ++
      toString position
  | .marked p => p.message text
  | .badValue _ m => m

end DiagnosticCheck.Yaml
