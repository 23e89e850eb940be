import DiagnosticCheck.Command
import DiagnosticCheck.Proofs.Blocks
import Mathlib

/-!
# Exit codes of the check command

`check` reads its command line, its settings file and the tool's output into the call it makes
to the check, or stops before: at the help page, at an unusable command line, at a settings file
that cannot be loaded, at an output file that cannot be read or decoded (`Command.checkSetup`).
The check then runs on that call and its result is printed.

The exit code classifies how the run ends (`check_exit_code_classifies`): 0 for the help page and
for a check that passes; 2 for what the command reports, an unusable command line, a settings
file refused with a code, an output file that cannot be read, a source that cannot be read or is
malformed; 1 for a check that fails and for an error that nothing catches. Those are a settings
file or an output file that is not UTF-8, a NUL in the output's path, a settings file whose
loading crashes, and a crash inside the check; they end with exit code 1 and nothing printed,
where the command's documentation promises 2. A check that fails prints, as text, its report
without the line feeds around it, and that text is never empty: every discrepancy of a verdict is
led by its place or is the marker of unmatched entries.
-/

namespace DiagnosticCheck

namespace Verdict

variable {search : Expectation → String → Except Crash Bool}

lemma turns_raised : ∀ {xs : List Expectation} {entries : List String} {ds : List Discrepancy}
    {rest : List String}, turns search xs entries = .ok (ds, rest) →
      ∀ d ∈ ds, ∃ e ∈ xs, d.RaisedBy e
  | [], entries, ds, rest, h => by
    cases h
    simp
  | e :: es, entries, ds, rest, h => by
    obtain ⟨⟨ds₁, left⟩, hturn, h⟩ := bind_eq_ok h
    obtain ⟨⟨ds₂, rest'⟩, hrest, h⟩ := bind_eq_ok h
    cases h
    intro d hd
    rcases List.mem_append.1 hd with hd | hd
    · exact ⟨e, List.mem_cons_self, (turn_within search hturn).2 d hd⟩
    · obtain ⟨e', he', hraised⟩ := turns_raised hrest d hd
      exact ⟨e', List.mem_cons_of_mem e he', hraised⟩

def Shown (d : Discrepancy) : Prop :=
  ∃ c ∈ d.message.toList, c ≠ '\n'

lemma shown_of_raisedBy {e : Expectation} {d : Discrepancy} (h : d.RaisedBy e) : Shown d := by
  obtain ⟨kind, hk, detail, witness, rfl⟩ := h
  exact ⟨':', by simp [Expectation.discrepancy], by decide⟩

/-- A verdict that does not pass shows something: the turns' first discrepancy is led by its
expectation's place, and without one the entries left over come after the marker. -/
lemma shown_of_not_passed {entries : List String} {xs : List Expectation} {v : Verdict}
    (hv : ofEntries search entries xs = .ok v) (hpass : v.passed = false) :
    ∃ d ∈ v.discrepancies, Shown d := by
  obtain ⟨ds, tail, hrun, hleft, hdisc⟩ := ofEntries_eq_ok hv
  rw [hdisc]
  cases ds with
  | cons d ds =>
    obtain ⟨e, -, hraised⟩ := turns_raised hrun d List.mem_cons_self
    exact ⟨d, List.mem_append_left _ List.mem_cons_self, shown_of_raisedBy hraised⟩
  | nil =>
    have hviews := leftovers_views hleft
    cases hu : v.unmatched with
    | nil =>
      have htail : tail = [] := by simpa [hu, leftoverViews] using hviews
      simp [passed, hdisc, htail, hu] at hpass
    | cons x rest =>
      cases tail with
      | nil => simp [hu, leftoverViews] at hviews
      | cons m ms =>
        have hm : m.message = "unmatched errors" := by
          simp only [hu, leftoverViews, reduceCtorEq, if_false, List.map_cons,
            List.cons.injEq, Discrepancy.view, Prod.mk.injEq] at hviews
          exact hviews.1.2.1
        exact ⟨m, List.mem_cons_self, 'u', by simp [hm], by decide⟩

lemma report_shown {v : Verdict} (h : ∃ d ∈ v.discrepancies, Shown d) :
    ∃ r, v.report = some r ∧ ∃ c ∈ r.toList, c ≠ '\n' := by
  obtain ⟨d, hd, c, hc, hne⟩ := h
  unfold report
  split
  · rename_i hnil
    simp [hnil] at hd
  · rename_i d' hone
    rw [hone, List.mem_singleton] at hd
    subst hd
    exact ⟨_, rfl, c, hc, hne⟩
  · refine ⟨_, rfl, c, ?_, hne⟩
    simp only [String.toList_append, String.toList_join, List.mem_append, List.mem_flatMap,
      List.mem_map]
    exact .inr ⟨_, ⟨d, hd, rfl⟩, by simp [hc]⟩

end Verdict

lemma Check.ofEntries_of_run {w : Workspace} {output : String} {wantAuto : Bool}
    {checker : String} {srcs : List SourceFile} {prefixes : NoisePrefixes} {v : Verdict}
    (h : Check.run w output wantAuto checker srcs prefixes = .ok v) :
    ∃ entries xs, Verdict.ofEntries Expectation.finds entries xs = .ok v := by
  unfold Check.run at h
  obtain ⟨xs, -, hv⟩ := bind_eq_ok h
  refine ⟨Check.entries output wantAuto prefixes srcs, xs, ?_⟩
  cases hof :
      Verdict.ofEntries Expectation.finds (Check.entries output wantAuto prefixes srcs) xs with
  | error e => simp [hof, Except.mapError] at hv
  | ok v' => simpa [hof, Except.mapError] using hv

namespace Command

lemma trimLineFeeds_ne_empty {r : String} (h : ∃ c ∈ r.toList, c ≠ '\n') :
    trimLineFeeds r ≠ "" := by
  obtain ⟨c, hc, hne⟩ := h
  have hfront : r.toList.dropWhile (· = '\n') ≠ [] := fun hnil =>
    hne (by simpa using List.dropWhile_eq_nil_iff.1 hnil c hc)
  have hback : ((r.toList.dropWhile (· = '\n')).reverse.dropWhile (· = '\n')) ≠ [] := by
    intro hnil
    have hhead := List.head_dropWhile_not (fun c => decide (c = '\n')) hfront
    have hmem := List.mem_reverse.2 (List.head_mem hfront)
    exact absurd (by simpa using List.dropWhile_eq_nil_iff.1 hnil _ hmem) (by simpa using hhead)
  simpa [trimLineFeeds, String.ofList_eq_empty_iff] using hback

namespace Stop

/-- The stops `check` reports, with a line and exit code 2: an unusable command line, a settings
file refused with a code, an output file that cannot be read. -/
def Reported : Stop → Prop
  | .usage => True
  | .settings e => e.code ≠ ""
  | .unread _ failure => failure ≠ .nulInPath
  | _ => False

/-- The stops nothing catches, which end the run with exit code 1 and nothing printed: a settings
file that is not UTF-8 or whose loading crashes, a NUL in the output's path, an output file that
is not UTF-8. -/
def Uncaught : Stop → Prop
  | .settings e => e.code = ""
  | .unread _ failure => failure = .nulInPath
  | .undecodable => True
  | _ => False

lemma outcome_settings_exitCode (e : SettingsError) :
    (Stop.settings e).outcome.exitCode = if e.code = "" then 1 else 2 := by
  cases e <;> simp [outcome, SettingsError.code]

lemma outcome_unread_exitCode (path : String) (failure : ReadFailure) :
    (Stop.unread path failure).outcome.exitCode = if failure = .nulInPath then 1 else 2 := by
  cases failure <;> simp [outcome]

lemma outcome_exitCode_eq_zero (s : Stop) : s.outcome.exitCode = 0 ↔ s = .help := by
  cases s with
  | settings e => rw [outcome_settings_exitCode]; split <;> simp
  | unread path failure => rw [outcome_unread_exitCode]; split <;> simp
  | _ => simp [outcome, usageError]

lemma outcome_exitCode_eq_one (s : Stop) : s.outcome.exitCode = 1 ↔ s.Uncaught := by
  cases s with
  | settings e => rw [outcome_settings_exitCode]; split <;> simp_all [Uncaught]
  | unread path failure => rw [outcome_unread_exitCode]; split <;> simp_all [Uncaught]
  | _ => simp [outcome, usageError, Uncaught]

lemma outcome_exitCode_eq_two (s : Stop) : s.outcome.exitCode = 2 ↔ s.Reported := by
  cases s with
  | settings e => rw [outcome_settings_exitCode]; split <;> simp_all [Reported]
  | unread path failure => rw [outcome_unread_exitCode]; split <;> simp_all [Reported]
  | _ => simp [outcome, usageError, Reported]

end Stop

lemma printVerdict_exitCode (v : Verdict) (format : String) :
    (printVerdict v format).exitCode = if v.passed then 0 else 1 := by
  simp only [printVerdict]
  split
  · rfl
  · split <;> rfl

lemma printRun_exitCode_eq_zero (format : String) (r : Except CheckError Verdict) :
    (printRun format r).exitCode = 0 ↔ ∃ v, r = .ok v ∧ v.passed = true := by
  rcases r with (e | e) | v
  · cases e <;> simp [printRun, fixtureLine]
  · simp [printRun]
  · cases hp : v.passed <;> simp [printRun, printVerdict_exitCode, hp]

lemma printRun_exitCode_eq_one (format : String) (r : Except CheckError Verdict) :
    (printRun format r).exitCode = 1 ↔
      (∃ v, r = .ok v ∧ v.passed = false) ∨ ∃ e, r = .error e ∧ ∀ f, e ≠ .source (.fixture f) := by
  rcases r with (e | e) | v
  · cases e <;> simp [printRun, fixtureLine]
  · simp [printRun]
  · cases hp : v.passed <;> simp [printRun, printVerdict_exitCode, hp]

lemma printRun_exitCode_eq_two (format : String) (r : Except CheckError Verdict) :
    (printRun format r).exitCode = 2 ↔ ∃ f, r = .error (.source (.fixture f)) := by
  rcases r with (e | e) | v
  · cases e <;> simp [printRun, fixtureLine]
  · simp [printRun]
  · cases hp : v.passed <;> simp [printRun, printVerdict_exitCode, hp]

/-- A check that fails shows something: its verdict has a discrepancy that shows a character other
than a line feed. -/
lemma Call.shown_of_run {w : Workspace} {c : Call} {v : Verdict} (h : c.run w = .ok v)
    (hpass : v.passed = false) : ∃ d ∈ v.discrepancies, Verdict.Shown d := by
  obtain ⟨entries, xs, hv⟩ := Check.ofEntries_of_run h
  exact Verdict.shown_of_not_passed hv hpass

section Runs

variable {w : Workspace} {stdin : String} {args : List String}

lemma run_check (w : Workspace) (stdin : String) (args : List String) :
    Command.run w stdin ("check" :: args) = check w stdin args := rfl

lemma run_check_of_stop {s : Stop} (h : checkSetup w stdin args = .error s) :
    Command.run w stdin ("check" :: args) = s.outcome := by
  simp only [run_check, check, h]

lemma run_check_of_call {c : Call} (h : checkSetup w stdin args = .ok c) :
    Command.run w stdin ("check" :: args) = printRun c.format (c.run w) := by
  simp only [run_check, check, h]

end Runs

/-- The exit code of `check` classifies how the run ends. 0: the help page was asked for, or the
check ran and passed. 1: the check ran and found discrepancies, or an error nothing catches ended
the run, before the check or inside it. 2: the command reports an unusable command line, a
settings file refused with a code, an output file that cannot be read, or a source that cannot be
read or is malformed. A check that fails, printed as text, prints its report without the line
feeds around it, and that text is never empty. -/
theorem check_exit_code_classifies (w : Workspace) (stdin : String) (args : List String) :
    ((Command.run w stdin ("check" :: args)).exitCode = 0 ↔
      checkSetup w stdin args = .error .help ∨
        ∃ c v, checkSetup w stdin args = .ok c ∧ c.run w = .ok v ∧ v.passed = true) ∧
    ((Command.run w stdin ("check" :: args)).exitCode = 1 ↔
      (∃ s, checkSetup w stdin args = .error s ∧ s.Uncaught) ∨
        (∃ c v, checkSetup w stdin args = .ok c ∧ c.run w = .ok v ∧ v.passed = false) ∨
        ∃ c e, checkSetup w stdin args = .ok c ∧ c.run w = .error e ∧
          ∀ f, e ≠ .source (.fixture f)) ∧
    ((Command.run w stdin ("check" :: args)).exitCode = 2 ↔
      (∃ s, checkSetup w stdin args = .error s ∧ s.Reported) ∨
        ∃ c f, checkSetup w stdin args = .ok c ∧ c.run w = .error (.source (.fixture f))) ∧
    ∀ c v, checkSetup w stdin args = .ok c → c.format = "text" → c.run w = .ok v →
      v.passed = false → ∃ r, v.report = some r ∧ trimLineFeeds r ≠ "" ∧
        (Command.run w stdin ("check" :: args)).stdout = line (trimLineFeeds r) := by
  cases hs : checkSetup w stdin args with
  | error s =>
    rw [run_check_of_stop hs]
    refine ⟨?_, ?_, ?_, fun c v hc => absurd hc (by simp)⟩
    · simp [Stop.outcome_exitCode_eq_zero]
    · simp [Stop.outcome_exitCode_eq_one]
    · simp [Stop.outcome_exitCode_eq_two]
  | ok c =>
    rw [run_check_of_call hs]
    refine ⟨?_, ?_, ?_, ?_⟩
    · simp [printRun_exitCode_eq_zero]
    · simp [printRun_exitCode_eq_one]
    · simp [printRun_exitCode_eq_two]
    · rintro c' v ⟨⟩ hfmt hv hpass
      obtain ⟨r, hr, hshown⟩ := Verdict.report_shown (Call.shown_of_run hv hpass)
      refine ⟨r, hr, trimLineFeeds_ne_empty hshown, ?_⟩
      simp [hv, printRun, printVerdict, hpass, hfmt, hr]

example : (Command.run ⟨[]⟩ "" ["check", "x.go", "--output", "-", "--help"]).exitCode = 0 := by
  decide +kernel

/-- A source without annotations and one entry on standard input: the check runs and leaves the
entry unmatched, and its report is printed. -/
theorem check_reports_unmatched_entry :
    let w : Workspace := ⟨[("x.go", "package p\n".toList.map Char.toNat)]⟩
    let stdin := "x.go:1: boom (vet)\n"
    let args := ["x.go", "--output", "-"]
    ∃ c v, (checkSetup w stdin args = .ok c ∧ c.format = "text" ∧ c.run w = .ok v ∧
      v.passed = false) ∧ ∃ r, v.report = some r ∧ trimLineFeeds r ≠ "" ∧
        (Command.run w stdin ("check" :: args)).stdout = line (trimLineFeeds r) := by
  intro w stdin args
  have hsetup : ((checkSetup w stdin args).map fun c =>
      (c.format, (c.run w).toOption.map Verdict.passed)) = .ok ("text", some false) := by
    decide +kernel
  obtain ⟨c, hc, hran⟩ := map_eq_ok hsetup
  obtain ⟨hfmt, hpassed⟩ := Prod.mk.inj hran
  obtain ⟨v, hv, hpass⟩ := Option.map_eq_some_iff.1 hpassed
  have hrun : c.run w = .ok v := by
    cases h : c.run w with
    | error e => simp [h, Except.toOption] at hv
    | ok v' => simpa [h, Except.toOption] using hv
  exact ⟨c, v, ⟨hc, hfmt, hrun, hpass⟩,
    (check_exit_code_classifies w stdin args).2.2.2 c v hc hfmt hrun hpass⟩

/-- An output file that is not UTF-8 is an error that nothing catches: the run ends with exit
code 1 and prints nothing, where a fixture error with exit code 2 is documented. -/
theorem undecodable_output_exits_one :
    let w : Workspace := ⟨[("x.go", "package p\n".toList.map Char.toNat), ("out.txt", [0xff])]⟩
    checkSetup w "" ["x.go", "--output", "out.txt"] = .error .undecodable ∧
      Command.run w "" ["check", "x.go", "--output", "out.txt"] = ⟨1, ""⟩ := by
  intro w
  have hsetup : (checkSetup w "" ["x.go", "--output", "out.txt"]).map (fun _ => ()) =
      .error .undecodable := by
    decide +kernel
  have hstop := map_eq_error hsetup
  exact ⟨hstop, run_check_of_stop hstop⟩

end Command

end DiagnosticCheck
