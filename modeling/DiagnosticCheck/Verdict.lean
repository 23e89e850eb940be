import DiagnosticCheck.Discrepancy
import DiagnosticCheck.Expectation
import DiagnosticCheck.Location
import DiagnosticCheck.Entry
import DiagnosticCheck.Literal
import DiagnosticCheck.Crash

/-!
# Verdicts

Checking the entries of a tool's output against the expected errors. Each expectation in turn
takes its share of the entries still unclaimed: those reported at its place (or in generated
code, for an expectation of generated code). An entry whose text its pattern finds is consumed;
every other one stays for the expectations after it. Each turn records what went wrong: an
expectation without a checker, one with no entry at its place, entries that are no diagnostic,
diagnostics from another checker, and a pattern that found nothing. Entries left over at the end
are unmatched.

The pattern search is a parameter, so that the rules of the turn can be stated for any search. A
search may crash, which stops the check.
-/

namespace DiagnosticCheck

/-- A discrepancy about one expectation, at its place, with the message led by the place. -/
def Expectation.discrepancy (e : Expectation) (kind : Discrepancy.Kind)
    (hk : kind.located = true) (detail : String) (witness : Option Json) : Discrepancy where
  kind := kind
  message := e.place ++ ": " ++ detail
  file := some e.ownerFile
  line := some e.sourceLine
  witness := witness.map Json.normalize
  message_ne := by
    intro h
    have := congrArg String.length h
    simp at this
  line_pos := by
    intro n hn
    cases hn
    exact e.sourceLine_pos
  located_placed := fun _ => ⟨rfl, rfl⟩
  unlocated_unplaced := fun h => absurd (hk.symm.trans h) (by decide)

/-- The outcome of a check: the discrepancies in the order found, and the entries that no
expectation consumed. -/
structure Verdict where
  discrepancies : List Discrepancy
  unmatched : List String

namespace Verdict

/-- A check passes when it found no discrepancy and left no entry. -/
def passed (v : Verdict) : Bool :=
  v.discrepancies.isEmpty && v.unmatched.isEmpty

/-- The report of a check: nothing when it found no discrepancy, the one message when it found
one, and otherwise every message on a line of its own after an empty line. -/
def report (v : Verdict) : Option String :=
  match v.discrepancies with
  | [] => none
  | [d] => some d.message
  | ds => some ("\n" ++ String.join (ds.map (·.message ++ "\n")))

def context (entries : List String) : String :=
  "\n\t".intercalate entries

/-- The state of an expectation's turn over its candidates: the candidates kept so far, the texts
its pattern was tried on in vain, whether it found one, and the discrepancies so far. -/
structure Turn where
  survivors : List String := []
  attempted : List String := []
  matched : Bool := false
  found : List Discrepancy := []

section Turns

variable (search : Expectation → String → Except Crash Bool)

/-- Tries an expectation on its candidates in order; `others` are the entries at other places.
A candidate that is no diagnostic is kept and reported; a diagnostic whose text the pattern finds
is consumed, any other is kept; a diagnostic from another checker is reported either way. -/
def scan (e : Expectation) (others : List String) (t : Turn) : List String → Except Crash Turn
  | [] => .ok t
  | c :: cs =>
    match Entry.decompose c with
    | none =>
      scan e others { t with
        survivors := t.survivors ++ [c]
        found := t.found ++ [e.discrepancy .unexpectedLine rfl ("unexpected error line: " ++ c)
          (some (.obj [("entry", .str c)]))] } cs
    | some (text, checker) => do
      let hit ← search e text
      let t := if hit then { t with matched := true }
        else { t with survivors := t.survivors ++ [c], attempted := t.attempted ++ [text] }
      let t := if checker = e.checkerName then t
        else { t with found := t.found ++ [e.discrepancy .wrongChecker rfl
          ("expected error from " ++ Literal.quote e.checkerName ++ " but got error from " ++
            Literal.quote checker ++ " in:\n\t" ++ context (others ++ t.survivors))
          (some (.obj [("actual_checker", .str checker), ("entry", .str c),
            ("expected_checker", .str e.checkerName)]))] }
      scan e others t cs

/-- One expectation's turn over the unclaimed entries: its discrepancies and the entries left. -/
def turn (e : Expectation) (entries : List String) :
    Except Crash (List Discrepancy × List String) :=
  if e.checkerName = "" then
    .ok ([e.discrepancy .noChecker rfl "no expected linter indicated for test" none], entries)
  else
    let (candidates, others) := Location.partition e.target entries
    if candidates.isEmpty then
      .ok ([e.discrepancy .missingError rfl ("missing error " ++ Literal.quote e.pattern)
        (some (.obj [("pattern", .str e.pattern), ("prefix", .str e.target)]))], entries)
    else do
      let t ← scan search e others {} candidates
      let missed := if t.matched then [] else
        [e.discrepancy .noMatch rfl
          ("no match for " ++ Literal.quoteRaw e.pattern ++ " vs " ++
            Literal.quoteList t.attempted ++ " in:\n\t" ++ context (others ++ t.survivors))
          (some (.obj [("attempted", .arr (t.attempted.map .str)), ("pattern", .str e.pattern)]))]
      return (t.found ++ missed, others ++ t.survivors)

/-- Every expectation's turn in order: the discrepancies of all turns and the entries left. -/
def turns : List Expectation → List String → Except Crash (List Discrepancy × List String)
  | [], entries => .ok ([], entries)
  | e :: es, entries => do
    let (found, left) ← turn search e entries
    let (later, rest) ← turns es left
    return (found ++ later, rest)

/-- The discrepancies for entries left over: a marker, then one per entry. An empty entry cannot
be reported, since a discrepancy needs a message. -/
def leftovers (rest : List String) : Except (List FieldError) (List Discrepancy) :=
  if rest.isEmpty then .ok []
  else do
    let marker ← Discrepancy.make? .unmatchedMarker "unmatched errors" none none none
    let each ← rest.mapM fun x =>
      Discrepancy.make? .unmatchedEntry x none none (some (.obj [("entry", .str x)]))
    return marker :: each

/-- Why entries could not be checked: a search crashed, or an entry left over cannot be
reported. -/
inductive Failure where
  | crash (c : Crash)
  | invalid (errors : List FieldError)

/-- Checks entries against expectations. -/
def ofEntries (entries : List String) (expectations : List Expectation) :
    Except Failure Verdict := do
  let (found, rest) ← (turns search expectations entries).mapError .crash
  let tail ← (leftovers rest).mapError .invalid
  return { discrepancies := found ++ tail, unmatched := rest }

end Turns

end Verdict

end DiagnosticCheck
