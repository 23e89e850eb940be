import DiagnosticCheck.Check
import DiagnosticCheck.Proofs.Annotation
import DiagnosticCheck.Proofs.Blocks
import DiagnosticCheck.Proofs.Splitting
import Mathlib

/-!
# How a check can fail

Checking entries fails validation only on an empty entry. No place is reported in it, so no
expectation takes it as a candidate; it is left over, and the discrepancy for it has no message.
Every other discrepancy is a value of the type, and every such value passes validation as it is.
Apart from that, checking entries fails only where the search itself crashes.

For a whole check the output never gives an empty entry, and writing a path as a short name never
empties one, so validation never fails there. Every annotation is read at a line from 1 on for a
named source, so its expected error is always made. A check therefore ends with a verdict, with a
fixture error, with a crash while reading the sources (a value the pattern compiler refuses, a
repetition count too large for it, or a NUL in a path), or with a broken span in a search.
-/

namespace DiagnosticCheck

/-- Every discrepancy passes validation as it is, its witness normalised: the rules the type keeps
are the ones validation checks. -/
lemma Discrepancy.make?_self (d : Discrepancy) :
    Discrepancy.make? d.kind d.message d.file d.line d.witness =
      .ok { d with witness := d.witness.map Json.normalize } := by
  rw [Discrepancy.make?, dif_neg d.message_ne, dif_pos d.line_pos, dif_pos d.located_placed,
    dif_pos d.unlocated_unplaced]

namespace Verdict

/-- No place is reported in an empty entry. -/
@[simp] lemma reportedAt_empty (place : String) : Location.reportedAt "" place = false := rfl

section Failures

variable (search : Expectation → String → Except Crash Bool)

/-- A scan crashes only where the search crashes. -/
lemma scan_crash {e : Expectation} {others : List String} :
    ∀ {t : Turn} {cs : List String} {c : Crash}, scan search e others t cs = .error c →
      ∃ text, search e text = .error c
  | t, [], c, h => by cases h
  | t, x :: cs, c, h => by
    cases hd : Entry.decompose x with
    | none =>
      simp only [scan, hd] at h
      exact scan_crash h
    | some parts =>
      obtain ⟨text, checker⟩ := parts
      simp only [scan, hd] at h
      rcases bind_eq_error h with hs | ⟨_, -, h⟩
      · exact ⟨text, hs⟩
      · exact scan_crash h

/-- A turn crashes only where the search crashes. -/
lemma turn_crash {e : Expectation} {entries : List String} {c : Crash}
    (h : turn search e entries = .error c) : ∃ text, search e text = .error c := by
  rcases turn_cases search e entries with ⟨d, hturn, -⟩ | ⟨missed, -, hturn⟩
  · rw [hturn] at h
    cases h
  · rw [hturn] at h
    exact scan_crash search (map_eq_error h)

/-- The turns crash only where the search crashes, for one of the expectations. -/
lemma turns_crash : ∀ {xs : List Expectation} {entries : List String} {c : Crash},
    turns search xs entries = .error c → ∃ e ∈ xs, ∃ text, search e text = .error c
  | [], entries, c, h => by cases h
  | e :: es, entries, c, h => by
    rcases bind_eq_error h with hturn | ⟨⟨ds, left⟩, -, h⟩
    · obtain ⟨text, htext⟩ := turn_crash search hturn
      exact ⟨e, List.mem_cons_self, text, htext⟩
    rcases bind_eq_error h with hrest | ⟨⟨_, _⟩, -, h⟩
    · obtain ⟨e', he', text, htext⟩ := turns_crash hrest
      exact ⟨e', List.mem_cons_of_mem _ he', text, htext⟩
    cases h

/-- A turn leaves every entry not reported at its expectation's target: such an entry is never
a candidate. -/
lemma turn_keeps_unreported {e : Expectation} {entries : List String} {ds : List Discrepancy}
    {left : List String} (h : turn search e entries = .ok (ds, left)) {x : String}
    (hx : x ∈ entries) (hr : Location.reportedAt x e.target = false) : x ∈ left := by
  rcases turn_cases search e entries with ⟨d, hturn, -⟩ | ⟨missed, -, hturn⟩
  · rw [hturn] at h
    cases h
    exact hx
  · rw [hturn] at h
    obtain ⟨t, -, ht⟩ := map_eq_ok h
    cases ht
    exact List.mem_append_left _ (List.mem_filter.2 ⟨hx, by simp [hr]⟩)

/-- The turns leave only entries they were given, and always the empty one. -/
lemma turns_left : ∀ {xs : List Expectation} {entries : List String} {ds : List Discrepancy}
    {rest : List String}, turns search xs entries = .ok (ds, rest) →
      (∀ x ∈ rest, x ∈ entries) ∧ ("" ∈ entries → "" ∈ rest)
  | [], entries, ds, rest, h => by
    cases h
    exact ⟨fun x hx => hx, id⟩
  | e :: es, entries, ds, rest, h => by
    obtain ⟨⟨ds₁, left⟩, hturn, h⟩ := bind_eq_ok h
    obtain ⟨⟨ds₂, rest'⟩, hrest, h⟩ := bind_eq_ok h
    cases h
    have hfirst := (turn_within search hturn).1
    obtain ⟨hlater, hkeep⟩ := turns_left hrest
    exact ⟨fun x hx => hfirst x (hlater x hx),
      fun hin => hkeep (turn_keeps_unreported search hturn hin (reportedAt_empty _))⟩

/-- How checking entries can end, for a search: with a verdict, when no entry is empty; on the
empty message of the discrepancy for an empty entry; or with a crash of the search for one of the
expectations. -/
inductive Ends (entries : List String) (xs : List Expectation) : Except Failure Verdict → Prop
  | verdict (v : Verdict) (hne : "" ∉ entries) : Ends entries xs (.ok v)
  | emptyEntry (hin : "" ∈ entries) :
    Ends entries xs (.error (.invalid [{ loc := ["message"], issue := .stringTooShort }]))
  | crash (c : Crash) {e : Expectation} (he : e ∈ xs) (text : String)
    (hc : search e text = .error c) : Ends entries xs (.error (.crash c))

/-- Checking entries ends in one of the ways `Ends` lists. -/
theorem ofEntries_ends (entries : List String) (xs : List Expectation) :
    Ends search entries xs (ofEntries search entries xs) := by
  cases hrun : turns search xs entries with
  | error c =>
    obtain ⟨e, he, text, hc⟩ := turns_crash search hrun
    have hcrash : ofEntries search entries xs = .error (.crash c) := by
      simp [ofEntries, hrun, Except.mapError, bind, Except.bind]
    rw [hcrash]
    exact .crash c he text hc
  | ok r =>
    obtain ⟨ds, rest⟩ := r
    obtain ⟨hsub, hkeep⟩ := turns_left search hrun
    by_cases hin : "" ∈ entries
    · rw [ofEntries_invalid hrun (leftovers_eq_error (hkeep hin))]
      exact .emptyEntry hin
    · obtain ⟨tail, hleft⟩ := (leftovers_ok_iff rest).2 fun h => hin (hsub _ h)
      rw [ofEntries_ok hrun hleft]
      exact .verdict _ hin

/-- With a search that never crashes for the expectations, checking entries gives a verdict
exactly when no entry is empty. -/
lemma ofEntries_ok_iff_of_no_crash {entries : List String} {xs : List Expectation}
    (hsearch : ∀ e ∈ xs, ∀ text c, search e text ≠ .error c) :
    (∃ v, ofEntries search entries xs = .ok v) ↔ "" ∉ entries := by
  have hends := ofEntries_ends search entries xs
  generalize ofEntries search entries xs = r at hends ⊢
  cases hends with
  | verdict v hne => exact ⟨fun _ => hne, fun _ => ⟨v, rfl⟩⟩
  | emptyEntry hin => simp [hin]
  | crash c he text hc => exact absurd hc (hsearch _ he text c)

end Failures

end Verdict

namespace Text

lemma replaceFrom_ne_nil {p : Char} {ps rep : List Char} (hrep : rep ≠ []) :
    ∀ {cs : List Char}, cs ≠ [] → replaceFrom p ps rep cs ≠ []
  | [], h => absurd rfl h
  | c :: cs, _ => by
    rw [replaceFrom]
    split
    · simp [hrep]
    · simp

/-- Replacing by a non-empty text never empties a text. -/
lemma replace_ne_empty {s pat rep : String} (hs : s ≠ "") (hrep : rep ≠ "") :
    replace s pat rep ≠ "" := by
  have hs' : s.toList ≠ [] := mt String.toList_eq_nil_iff.1 hs
  have hrep' : rep.toList ≠ [] := mt String.toList_eq_nil_iff.1 hrep
  rw [replace, Ne, String.ofList_eq_empty_iff]
  unfold replaceChars
  split
  · exact hs'
  · exact replaceFrom_ne_nil hrep' hs'

end Text

/-- Writing a source's path as its short name never empties an entry. -/
lemma SourceFile.shorten_ne_empty (s : SourceFile) {entry : String} (h : entry ≠ "") :
    s.shorten entry ≠ "" := by
  unfold SourceFile.shorten
  split
  · exact h
  · exact Text.replace_ne_empty h s.shortName_ne

lemma SourceFile.foldl_shorten_ne_empty :
    ∀ (sources : List SourceFile) {entry : String}, entry ≠ "" →
      sources.foldl SourceFile.shorten entry ≠ ""
  | [], _, h => h
  | s :: rest, _, h => foldl_shorten_ne_empty rest (s.shorten_ne_empty h)

/-- A check never has an empty entry: the output gives none, and shortening paths makes none. -/
lemma Check.empty_not_mem_entries (output : String) (wantAuto : Bool) (prefixes : NoisePrefixes)
    (sources : List SourceFile) : "" ∉ Check.entries output wantAuto prefixes sources := by
  simp only [Check.entries, List.mem_map, not_exists, not_and]
  intro x hx
  have hne : x ≠ "" := ((Output.entries_shaped output wantAuto prefixes).1 x hx).ne_empty
  exact SourceFile.foldl_shorten_ne_empty sources hne

/-- The faults that reading annotations can end with when the lines are numbered from 1 and the
short name is not empty: a fixture error, or a crash of kind value or overflow. An expected error
that cannot be made is not among them. -/
def DirectiveError.Reachable : DirectiveError → Prop
  | .fixture _ => True
  | .expectation _ => False
  | .crash c => c.kind = .value ∨ c.kind = .overflow

namespace Directive

variable {origin shortName defaultChecker : String}

/-- A line read at a line number from 1 on, for a named source, fails only on its literal or its
pattern: the expected error of an annotation is always made. -/
lemma parseLine_reachable {n : Nat} {line : String} (hn : 0 < n) (hs : shortName ≠ "")
    {err : DirectiveError} (h : parseLine origin shortName defaultChecker n line = .error err) :
    err.Reachable := by
  unfold parseLine at h
  split at h
  next => cases h
  next auto _ _ =>
    split at h
    next checker _ _ =>
      split at h
      next => cases h; trivial
      next pattern _ =>
        split at h
        next => split at h <;> cases h <;> simp [DirectiveError.Reachable]
        next regex _ =>
          obtain ⟨x, hx, -⟩ := Expectation.make?_ok pattern regex hn auto hs checker
          rw [hx] at h
          cases h

lemma parseLines_reachable (hs : shortName ≠ "") :
    ∀ {n : Nat} {lines : List String} {err : DirectiveError}, 0 < n →
      parseLines origin shortName defaultChecker n lines = .error err → err.Reachable
  | _, [], _, _, h => by cases h
  | n, line :: rest, err, hn, h => by
    rcases bind_eq_error h with hline | ⟨_, -, h⟩
    · exact parseLine_reachable hn hs hline
    rcases bind_eq_error h with hrest | ⟨_, -, h⟩
    · exact parseLines_reachable hs (Nat.succ_pos n) hrest
    cases h

lemma parseFile_reachable {w : Workspace} {fullPath : String} (hs : shortName ≠ "")
    {err : DirectiveError} (h : parseFile w fullPath shortName defaultChecker = .error err) :
    err.Reachable := by
  unfold parseFile at h
  split at h
  · cases h
    exact .inl rfl
  · cases h
    trivial
  · rw [parseText_eq_parseLines] at h
    exact parseLines_reachable hs Nat.one_pos h

end Directive

namespace Check

lemma expectations_reachable (w : Workspace) (defaultChecker : String) :
    ∀ {sources : List SourceFile} {err : DirectiveError},
      expectations w defaultChecker sources = .error err → err.Reachable
  | [], _, h => by cases h
  | s :: rest, err, h => by
    rcases bind_eq_error h with hfile | ⟨_, -, h⟩
    · exact Directive.parseFile_reachable s.shortName_ne hfile
    rcases bind_eq_error h with hrest | ⟨_, -, h⟩
    · exact expectations_reachable w defaultChecker hrest
    cases h

/-- A search with a pattern crashes only on a broken span. -/
lemma finds_crash {e : Expectation} {text : String} {c : Crash} (h : e.finds text = .error c) :
    c = ⟨.system, Regex.brokenSpanMessage⟩ := by
  unfold Expectation.finds at h
  split at h <;> cases h
  rfl

/-- How a whole check can end: with a verdict; with a fault reading the sources, which is a
fixture error or a crash of kind value or overflow; or with a broken span in a search. -/
inductive Ends : Except CheckError Verdict → Prop
  | verdict (v : Verdict) : Ends (.ok v)
  | source {err : DirectiveError} (h : err.Reachable) : Ends (.error (.source err))
  | brokenSpan : Ends (.error (.verdict (.crash ⟨.system, Regex.brokenSpanMessage⟩)))

/-- A check ends in one of the ways `Ends` lists: its entries are never empty, so checking them
never fails validation. -/
theorem run_ends (w : Workspace) (output : String) (wantAuto : Bool) (defaultChecker : String)
    (sources : List SourceFile) (prefixes : NoisePrefixes) :
    Ends (run w output wantAuto defaultChecker sources prefixes) := by
  unfold run
  cases hx : expectations w defaultChecker sources with
  | error err =>
    simp only [Except.mapError, bind, Except.bind]
    exact .source (expectations_reachable w defaultChecker hx)
  | ok expected =>
    simp only [Except.mapError, bind, Except.bind]
    have hends := Verdict.ofEntries_ends Expectation.finds
      (entries output wantAuto prefixes sources) expected
    generalize Verdict.ofEntries Expectation.finds (entries output wantAuto prefixes sources)
      expected = r at hends ⊢
    cases hends with
    | verdict v _ => exact .verdict v
    | emptyEntry hin => exact absurd hin (empty_not_mem_entries output wantAuto prefixes sources)
    | crash c _ text hc =>
      rw [finds_crash hc]
      exact .brokenSpan

/-- A check fails validation nowhere but on an empty entry, and never on a discrepancy it raises:
every discrepancy passes validation as it is. With a search that never crashes for the
expectations, checking entries gives a verdict exactly when none is empty; with any search it ends
as `Verdict.Ends` lists, a crash of the search being the only other failure. A whole check ends with
a verdict, a fault reading the sources (a fixture error, or a crash of kind value or overflow) or a
broken span in a search. -/
theorem check_fails_only_on_empty_entry_fixture_or_crash
    (search : Expectation → String → Except Crash Bool) (entries : List String)
    (xs : List Expectation) (w : Workspace) (output : String) (wantAuto : Bool)
    (defaultChecker : String) (sources : List SourceFile) (prefixes : NoisePrefixes) :
    (∀ d : Discrepancy, Discrepancy.make? d.kind d.message d.file d.line d.witness =
      .ok { d with witness := d.witness.map Json.normalize }) ∧
    ((∀ e ∈ xs, ∀ text c, search e text ≠ .error c) →
      ((∃ v, Verdict.ofEntries search entries xs = .ok v) ↔ "" ∉ entries)) ∧
    Verdict.Ends search entries xs (Verdict.ofEntries search entries xs) ∧
    Ends (run w output wantAuto defaultChecker sources prefixes) :=
  ⟨Discrepancy.make?_self, Verdict.ofEntries_ok_iff_of_no_crash search,
    Verdict.ofEntries_ends search entries xs, run_ends w output wantAuto defaultChecker sources prefixes⟩

theorem check_fails_only_on_empty_entry_fixture_or_crash_sample :
    let e : Expectation :=
      { pattern := "boom", regex := ⟨[], {}, 1⟩, sourceLine := 3, auto := false,
        ownerFile := "x.go", checkerName := "vet", sourceLine_pos := by decide,
        ownerFile_ne := by decide }
    (∀ x ∈ [e], ∀ text c, Verdict.pureSearch (fun _ _ => true) x text ≠ .error c) ∧
      ((∃ v, Verdict.ofEntries (Verdict.pureSearch fun _ _ => true) ["x.go:3: boom (vet)", ""] [e] =
        .ok v) ↔ "" ∉ ["x.go:3: boom (vet)", ""]) :=
  have hsearch : ∀ x ∈ [_], ∀ text c, Verdict.pureSearch (fun _ _ => true) x text ≠ .error c :=
    fun _ _ _ _ h => by cases h
  ⟨hsearch, (check_fails_only_on_empty_entry_fixture_or_crash _ _ _ ⟨[]⟩ "" false "" [] {}).2.1
    hsearch⟩

end Check

end DiagnosticCheck
