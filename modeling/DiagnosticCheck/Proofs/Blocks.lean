import DiagnosticCheck.Proofs.Accounting
import Mathlib

/-!
# The order of the discrepancies of a check

The discrepancies of a check come in one block per expectation, in the order of the
expectations, and then a tail for the entries left over. The block of an expectation is computed
on the entries still unclaimed at its turn: a lone `no_checker` for an expectation without a
checker, a lone `missing_error` when no entry is at its place, and otherwise one `unexpected_line`
or `wrong_checker` for each candidate, in order, that is no diagnostic or comes from another
checker (whether or not the pattern finds it), then one `no_match` when the pattern found no
candidate. Every discrepancy of a block is at the expectation's place, whatever the search. The
tail is empty when no entry is left; otherwise it is the marker and one discrepancy per entry
left, in order, none of them placed. So a check passes exactly when it finds no discrepancy,
exactly when it has no report, and it never raises the marker twice.

An empty entry is never taken and cannot be reported, so a check given one fails on it.
-/

namespace DiagnosticCheck

def Discrepancy.key (d : Discrepancy) : Discrepancy.Kind × Option String × Option Nat :=
  (d.kind, d.file, d.line)

def Discrepancy.view (d : Discrepancy) : Discrepancy.Kind × String × Option String × Option Nat :=
  (d.kind, d.message, d.file, d.line)

def Discrepancy.AtPlace (e : Expectation) (d : Discrepancy) : Prop :=
  d.file = some e.ownerFile ∧ d.line = some e.sourceLine

@[simp] lemma Expectation.discrepancy_atPlace (e : Expectation) (kind : Discrepancy.Kind)
    (hk : kind.located = true) (detail : String) (witness : Option Json) :
    (e.discrepancy kind hk detail witness).AtPlace e :=
  ⟨rfl, rfl⟩

/-- Whether a discrepancy is one that an expectation raises: at its place, with the message led
by the place. -/
def Discrepancy.RaisedBy (e : Expectation) (d : Discrepancy) : Prop :=
  ∃ kind hk detail witness, d = e.discrepancy kind hk detail witness

lemma Expectation.discrepancy_raisedBy (e : Expectation) (kind : Discrepancy.Kind)
    (hk : kind.located = true) (detail : String) (witness : Option Json) :
    (e.discrepancy kind hk detail witness).RaisedBy e :=
  ⟨kind, hk, detail, witness, rfl⟩

lemma Discrepancy.RaisedBy.atPlace {e : Expectation} {d : Discrepancy} (h : d.RaisedBy e) :
    d.AtPlace e := by
  obtain ⟨kind, hk, detail, witness, rfl⟩ := h
  exact Expectation.discrepancy_atPlace ..

lemma Discrepancy.view_of_make? {kind : Kind} {message : String} {file : Option String}
    {line : Option Nat} {witness : Option Json} {d : Discrepancy}
    (h : make? kind message file line witness = .ok d) : d.view = (kind, message, file, line) := by
  unfold make? at h
  split_ifs at h
  cases h
  rfl

section Stages

variable {ε α β : Type} {x : Except ε α} {f : α → Except ε β} {g : α → β}

lemma bind_eq_error {err : ε} (h : x >>= f = .error err) :
    x = .error err ∨ ∃ a, x = .ok a ∧ f a = .error err := by
  cases x with
  | error e =>
    simp only [bind, Except.bind, Except.error.injEq] at h
    exact .inl (h ▸ rfl)
  | ok a => exact .inr ⟨a, rfl, h⟩

lemma bind_eq_ok {b : β} (h : x >>= f = .ok b) : ∃ a, x = .ok a ∧ f a = .ok b := by
  cases x with
  | error e => cases h
  | ok a => exact ⟨a, rfl, h⟩

lemma map_eq_error {err : ε} (h : x.map g = .error err) : x = .error err := by
  cases x with
  | error e =>
    simp only [Except.map, Except.error.injEq] at h
    exact h ▸ rfl
  | ok a => cases h

lemma map_eq_ok {b : β} (h : x.map g = .ok b) : ∃ a, x = .ok a ∧ g a = b := by
  cases x with
  | error e => cases h
  | ok a =>
    simp only [Except.map, Except.ok.injEq] at h
    exact ⟨a, rfl, h⟩

end Stages

namespace Verdict

section Places

variable (search : Expectation → String → Except Crash Bool)

/-- One candidate of a scan, whatever the search: it survives or not, and adds a discrepancy that
the expectation raises or not. -/
lemma scan_cons_within {e : Expectation} {others : List String} {t t' : Turn} {c : String}
    {cs : List String} (h : scan search e others t (c :: cs) = .ok t') :
    ∃ t₁, scan search e others t₁ cs = .ok t' ∧
      (∀ x ∈ t₁.survivors, x ∈ t.survivors ∨ x = c) ∧
      ((∀ d ∈ t.found, d.RaisedBy e) → ∀ d ∈ t₁.found, d.RaisedBy e) := by
  cases hd : Entry.decompose c with
  | none =>
    simp only [scan, hd] at h
    refine ⟨_, h, fun x hx => by simpa using hx, fun ht d hd' => ?_⟩
    rcases List.mem_append.1 hd' with hd' | hd'
    · exact ht d hd'
    · rw [List.mem_singleton.1 hd']
      exact Expectation.discrepancy_raisedBy ..
  | some parts =>
    obtain ⟨text, checker⟩ := parts
    cases hs : search e text with
    | error err => simp [scan, hd, hs, bind, Except.bind] at h
    | ok hit =>
      simp only [scan, hd, hs, bind, Except.bind] at h
      refine ⟨_, h, fun x hx => ?_, fun ht d hd' => ?_⟩
      · split at hx <;> split at hx <;> simp_all
      · split at hd'
        · split at hd' <;> exact ht d hd'
        · rcases List.mem_append.1 hd' with hd' | hd'
          · split at hd' <;> exact ht d hd'
          · rw [List.mem_singleton.1 hd']
            exact Expectation.discrepancy_raisedBy ..

/-- What a scan keeps and raises, whatever the search: it keeps the survivors it started with
and some of its candidates, and every discrepancy it adds is one its expectation raises. -/
lemma scan_within {e : Expectation} {others : List String} :
    ∀ {t t' : Turn} {cs : List String}, scan search e others t cs = .ok t' →
      (∀ x ∈ t'.survivors, x ∈ t.survivors ∨ x ∈ cs) ∧
        ((∀ d ∈ t.found, d.RaisedBy e) → ∀ d ∈ t'.found, d.RaisedBy e)
  | t, t', [], h => by
    cases h
    exact ⟨fun x hx => .inl hx, id⟩
  | t, t', c :: cs, h => by
    obtain ⟨t₁, hrun, hsurv, hfound⟩ := scan_cons_within search h
    obtain ⟨hsurv', hfound'⟩ := scan_within hrun
    refine ⟨fun x hx => ?_, fun ht => hfound' (hfound ht)⟩
    rcases hsurv' x hx with hx | hx
    · rcases hsurv x hx with hx | rfl
      · exact .inl hx
      · exact .inr List.mem_cons_self
    · exact .inr (List.mem_cons_of_mem _ hx)

/-- A turn by cases: without a checker, or without a candidate, it raises one discrepancy and
leaves the entries as they are; otherwise it scans the candidates, raises what the scan found and
perhaps one more, and leaves the entries at other places followed by the candidates that survive.
Every discrepancy is one the expectation raises, at its place. -/
lemma turn_cases (e : Expectation) (entries : List String) :
    (∃ d, turn search e entries = .ok ([d], entries) ∧ d.RaisedBy e) ∨
    ∃ missed : Turn → List Discrepancy, (∀ t, ∀ d ∈ missed t, d.RaisedBy e) ∧
      turn search e entries =
        (scan search e (entries.filter (!Location.reportedAt · e.target)) {}
          (entries.filter (Location.reportedAt · e.target))).map fun t =>
          (t.found ++ missed t, entries.filter (!Location.reportedAt · e.target) ++ t.survivors) := by
  unfold turn
  by_cases hc : e.checkerName = ""
  · simp only [hc, if_true]
    exact .inl ⟨_, rfl, Expectation.discrepancy_raisedBy ..⟩
  simp only [hc, if_false, Location.partition, List.partition_eq_filter_filter]
  by_cases hn : (entries.filter (Location.reportedAt · e.target)).isEmpty
  · simp only [hn, if_true]
    exact .inl ⟨_, rfl, Expectation.discrepancy_raisedBy ..⟩
  simp only [hn, Bool.false_eq_true, if_false, Function.comp_def]
  refine .inr ⟨?missed, ?places, ?run⟩
  case run =>
    cases scan search e (entries.filter (!Location.reportedAt · e.target)) {}
      (entries.filter (Location.reportedAt · e.target)) <;> rfl
  case places =>
    intro t d hd
    split at hd
    · cases hd
    · rw [List.mem_singleton.1 hd]
      exact Expectation.discrepancy_raisedBy ..

/-- What a turn leaves and raises, whatever the search: it leaves only entries it was given, and
every discrepancy it has is one its expectation raises. -/
lemma turn_within {e : Expectation} {entries : List String} {ds : List Discrepancy}
    {left : List String} (h : turn search e entries = .ok (ds, left)) :
    (∀ x ∈ left, x ∈ entries) ∧ ∀ d ∈ ds, d.RaisedBy e := by
  rcases turn_cases search e entries with ⟨d, hturn, hd⟩ | ⟨missed, hmissed, hturn⟩
  · rw [hturn] at h
    cases h
    exact ⟨fun x hx => hx, fun d' hd' => List.mem_singleton.1 hd' ▸ hd⟩
  rw [hturn] at h
  obtain ⟨t, hscan, ht⟩ := map_eq_ok h
  cases ht
  obtain ⟨hsurv, hfound⟩ := scan_within search hscan
  refine ⟨fun x hx => ?_, fun d hd => ?_⟩
  · rcases List.mem_append.1 hx with hx | hx
    · exact (List.mem_filter.1 hx).1
    · rcases hsurv x hx with hx | hx
      · cases hx
      · exact (List.mem_filter.1 hx).1
  · rcases List.mem_append.1 hd with hd | hd
    · exact hfound (by simp) d hd
    · exact hmissed t d hd

end Places

section Blocks

variable (found : Expectation → String → Bool)

/-- The kinds and places of the discrepancies of an expectation's turn over the unclaimed
`entries`: the kinds that `turnKinds` lists, each at the expectation's place. -/
def blockKeys (e : Expectation) (entries : List String) :
    List (Discrepancy.Kind × Option String × Option Nat) :=
  (turnKinds found e entries).map fun k => (k, some e.ownerFile, some e.sourceLine)

/-- The blocks of the turns of `xs` from the unclaimed `entries` on, one per expectation in
order, each computed on the entries still unclaimed at its turn, and the entries left after the
last turn. -/
def blocks : List Expectation → List String →
    List (List (Discrepancy.Kind × Option String × Option Nat)) × List String
  | [], entries => ([], entries)
  | e :: es, entries =>
    let later := blocks es (remaining found e entries)
    (blockKeys found e entries :: later.1, later.2)

@[simp] lemma length_blocks (xs : List Expectation) (entries : List String) :
    (blocks found xs entries).1.length = xs.length := by
  induction xs generalizing entries with
  | nil => rfl
  | cons e es ih => simp [blocks, ih]

lemma unmatchedMarker_not_mem_candidateKinds (e : Expectation) (x : String) :
    .unmatchedMarker ∉ candidateKinds e x := by
  unfold candidateKinds
  split
  · simp
  · split <;> simp

/-- No block holds the marker of unmatched entries. -/
lemma unmatchedMarker_not_mem_turnKinds (e : Expectation) (entries : List String) :
    .unmatchedMarker ∉ turnKinds found e entries := by
  unfold turnKinds
  by_cases hc : e.checkerName = ""
  · simp [hc]
  by_cases hn : (entries.filter (Location.reportedAt · e.target)).isEmpty
  · simp only [hc, hn, if_false, if_true]
    simp
  simp only [hc, hn, if_false, Bool.false_eq_true, List.mem_append, List.mem_flatMap, not_or,
    not_exists, not_and]
  exact ⟨fun x _ => unmatchedMarker_not_mem_candidateKinds e x, by split <;> simp⟩

lemma turn_keys (e : Expectation) (entries : List String) :
    ∃ ds, turn (pureSearch found) e entries = .ok (ds, remaining found e entries) ∧
      ds.map Discrepancy.key = blockKeys found e entries := by
  obtain ⟨ds, hturn, hkinds⟩ := turn_eq found e entries
  refine ⟨ds, hturn, ?_⟩
  have hplace := (turn_within (pureSearch found) hturn).2
  rw [blockKeys, ← hkinds, List.map_map]
  exact List.map_congr_left fun d hd => by
    simp [Discrepancy.key, (hplace d hd).atPlace.1, (hplace d hd).atPlace.2]

/-- The turns raise the blocks `blocks` computes, in order, and leave the entries it gives. -/
theorem turns_blocks (xs : List Expectation) (entries : List String) :
    ∃ ds, turns (pureSearch found) xs entries = .ok (ds, (blocks found xs entries).2) ∧
      ds.map Discrepancy.key = (blocks found xs entries).1.flatten := by
  induction xs generalizing entries with
  | nil => exact ⟨[], rfl, rfl⟩
  | cons e es ih =>
    obtain ⟨ds₁, hturn, hkeys₁⟩ := turn_keys found e entries
    obtain ⟨ds₂, hrun, hkeys₂⟩ := ih (remaining found e entries)
    refine ⟨ds₁ ++ ds₂, ?_, ?_⟩
    · simp [turns, hturn, hrun, blocks, bind, Except.bind, pure, Except.pure]
    · simp [blocks, hkeys₁, hkeys₂]

/-- No kind in the blocks is the marker of unmatched entries. -/
lemma marker_not_mem_blocks (xs : List Expectation) (entries : List String) :
    ∀ k ∈ (blocks found xs entries).1.flatten, k.1 ≠ .unmatchedMarker := by
  induction xs generalizing entries with
  | nil => simp [blocks]
  | cons e es ih =>
    intro k hk
    simp only [blocks, List.flatten_cons, List.mem_append] at hk
    rcases hk with hk | hk
    · obtain ⟨kind, hkind, rfl⟩ := List.mem_map.1 hk
      exact fun h => unmatchedMarker_not_mem_turnKinds found e entries (h ▸ hkind)
    · exact ih _ k hk

end Blocks

section Leftovers

/-- What the discrepancies for the entries left over say: nothing when none is left, else the
marker and then one discrepancy per entry, in order, with the entry as its message, none of them
placed. -/
def leftoverViews (rest : List String) :
    List (Discrepancy.Kind × String × Option String × Option Nat) :=
  if rest = [] then []
  else (.unmatchedMarker, "unmatched errors", none, none) ::
    rest.map fun x => (.unmatchedEntry, x, none, none)

lemma mapM_map_of_ok {α β γ ε : Type} {f : α → Except ε β} {g : β → γ} {h : α → γ}
    (hfg : ∀ x y, f x = .ok y → g y = h x) :
    ∀ {xs : List α} {ys : List β}, xs.mapM f = .ok ys → ys.map g = xs.map h
  | [], ys, hxs => by
    cases hxs
    rfl
  | x :: xs, ys, hxs => by
    rw [List.mapM_cons] at hxs
    cases hx : f x with
    | error err => simp [hx, bind, Except.bind] at hxs
    | ok y =>
      cases hrest : xs.mapM f with
      | error err => simp [hx, hrest, bind, Except.bind] at hxs
      | ok ys' =>
        simp only [hx, hrest, bind, Except.bind, pure, Except.pure, Except.ok.injEq] at hxs
        subst hxs
        simp [hfg x y hx, mapM_map_of_ok hfg hrest]

lemma leftovers_views {rest : List String} {tail : List Discrepancy}
    (h : leftovers rest = .ok tail) : tail.map Discrepancy.view = leftoverViews rest := by
  unfold leftovers at h
  by_cases hr : rest = []
  · subst hr
    cases h
    rfl
  · simp only [List.isEmpty_eq_false_iff.2 hr, Bool.false_eq_true, if_false] at h
    cases hm : Discrepancy.make? .unmatchedMarker "unmatched errors" none none none with
    | error err => simp [hm, bind, Except.bind] at h
    | ok marker =>
      cases heach : rest.mapM (fun x => Discrepancy.make? .unmatchedEntry x none none
          (some (.obj [("entry", .str x)]))) with
      | error err => simp [hm, heach, bind, Except.bind] at h
      | ok each =>
        simp only [hm, heach, bind, Except.bind, pure, Except.pure, Except.ok.injEq] at h
        subst h
        have heachViews : each.map Discrepancy.view =
            rest.map fun x => (.unmatchedEntry, x, none, none) :=
          mapM_map_of_ok (fun _ _ hd => Discrepancy.view_of_make? hd) heach
        simp [leftoverViews, hr, Discrepancy.view_of_make? hm, heachViews]

lemma mapM_eq_error {α β ε : Type} {f : α → Except ε β} {err : ε}
    (hf : ∀ x, (∃ y, f x = .ok y) ∨ f x = .error err) :
    ∀ {xs : List α}, (∃ x ∈ xs, f x = .error err) → xs.mapM f = .error err
  | [], ⟨_, hx, _⟩ => absurd hx List.not_mem_nil
  | x :: xs, ⟨x', hx', hfx'⟩ => by
    rw [List.mapM_cons]
    rcases hf x with ⟨y, hy⟩ | hy
    · have hrest : ∃ x ∈ xs, f x = .error err := by
        rcases List.mem_cons.1 hx' with rfl | hx'
        · rw [hy] at hfx'
          cases hfx'
        · exact ⟨x', hx', hfx'⟩
      simp [hy, mapM_eq_error hf hrest, bind, Except.bind]
    · simp [hy, bind, Except.bind]

/-- Entries left over that include an empty one cannot be reported: the discrepancy for the
empty entry has no message. -/
lemma leftovers_eq_error {rest : List String} (h : "" ∈ rest) :
    leftovers rest = .error [{ loc := ["message"], issue := .stringTooShort }] := by
  have heach : ∀ x, (∃ d, Discrepancy.make? .unmatchedEntry x none none
      (some (.obj [("entry", .str x)])) = .ok d) ∨ Discrepancy.make? .unmatchedEntry x none none
      (some (.obj [("entry", .str x)])) = .error [{ loc := ["message"], issue := .stringTooShort }] := by
    intro x
    by_cases hx : x = ""
    · subst hx
      exact .inr (by simp [Discrepancy.make?, Discrepancy.lineErrors])
    · exact .inl (make_unmatchedEntry_ok hx _)
  have hfail := mapM_eq_error heach ⟨"", h, by simp [Discrepancy.make?, Discrepancy.lineErrors]⟩
  obtain ⟨m, hm⟩ : ∃ m, Discrepancy.make? .unmatchedMarker "unmatched errors" none none none =
      .ok m := ⟨_, rfl⟩
  simp [leftovers, List.ne_nil_of_mem h, hm, hfail, bind, Except.bind]

lemma leftoverViews_eq_nil_iff (rest : List String) : leftoverViews rest = [] ↔ rest = [] := by
  by_cases hr : rest = [] <;> simp [leftoverViews, hr]

lemma countP_marker_leftoverViews (rest : List String) :
    (leftoverViews rest).countP (·.1 == .unmatchedMarker) ≤ 1 := by
  by_cases hr : rest = []
  · simp [leftoverViews, hr]
  · simp [leftoverViews, hr, List.countP_map, Function.comp_def]

/-- A verdict has no report exactly when it has no discrepancy. -/
lemma report_eq_none_iff (v : Verdict) : v.report = none ↔ v.discrepancies = [] := by
  unfold report
  split <;> simp_all

end Leftovers

section Shape

variable (found : Expectation → String → Bool)

/-- How the discrepancies of a verdict are laid out for the turns of `xs` over `entries`: the
blocks of the turns in order, then the discrepancies for the entries left over, which are the
entries that `blocks` leaves. The verdict passes exactly when it has no discrepancy, exactly when
it has no report, and it has the marker of unmatched entries at most once. -/
structure InBlocks (xs : List Expectation) (entries : List String) (v : Verdict) : Prop where
  unmatched_eq : v.unmatched = (blocks found xs entries).2
  blocks_then_leftovers : ∃ ds tail, v.discrepancies = ds ++ tail ∧
    ds.map Discrepancy.key = (blocks found xs entries).1.flatten ∧
    tail.map Discrepancy.view = leftoverViews v.unmatched
  passed_iff : v.passed = true ↔ v.discrepancies = []
  report_iff : v.discrepancies = [] ↔ v.report = none
  marker_le : v.discrepancies.countP (·.kind == .unmatchedMarker) ≤ 1

/-- The verdict made of the turns' discrepancies and those for the entries left is laid out in
blocks. -/
lemma inBlocks_of_turns {xs : List Expectation} {entries : List String} {ds tail : List Discrepancy}
    (hkeys : ds.map Discrepancy.key = (blocks found xs entries).1.flatten)
    (hleft : leftovers (blocks found xs entries).2 = .ok tail) :
    InBlocks found xs entries ⟨ds ++ tail, (blocks found xs entries).2⟩ := by
  have hviews := leftovers_views hleft
  refine ⟨rfl, ⟨ds, tail, rfl, hkeys, hviews⟩, ?_, (report_eq_none_iff _).symm, ?_⟩
  · constructor
    · intro h
      simp only [passed, Bool.and_eq_true, List.isEmpty_iff] at h
      exact h.1
    · intro h
      have htail : tail = [] := (List.append_eq_nil_iff.1 h).2
      have hrest : (blocks found xs entries).2 = [] := by
        rw [← leftoverViews_eq_nil_iff, ← hviews, htail, List.map_nil]
      simp only [passed, Bool.and_eq_true, List.isEmpty_iff]
      exact ⟨h, hrest⟩
  · have hds : ds.countP (·.kind == .unmatchedMarker) = 0 := by
      rw [List.countP_eq_zero]
      intro d hd
      have hk := marker_not_mem_blocks found xs entries d.key (hkeys ▸ List.mem_map_of_mem hd)
      simpa [Discrepancy.key] using hk
    have htail : tail.countP (·.kind == .unmatchedMarker) ≤ 1 := by
      have h := countP_marker_leftoverViews (blocks found xs entries).2
      rwa [← hviews, List.countP_map] at h
    simp only [List.countP_append, hds, Nat.zero_add]
    exact htail

/-- With a search that never crashes, a check given no empty entry returns a verdict laid out in
blocks: one block per expectation, in order, computed on the entries unclaimed at its turn, then
the marker and one discrepancy per entry left when some are left. A check given an empty entry
fails instead, on the empty message of that entry's discrepancy. -/
theorem discrepancies_in_blocks (entries : List String) (xs : List Expectation) :
    ("" ∉ entries → ∃ v, ofEntries (pureSearch found) entries xs = .ok v ∧
      InBlocks found xs entries v) ∧
    ("" ∈ entries → ofEntries (pureSearch found) entries xs =
      .error (.invalid [{ loc := ["message"], issue := .stringTooShort }])) := by
  obtain ⟨ds, hrun, hkeys⟩ := turns_blocks found xs entries
  -- the entries left are, up to order, those that no expectation takes, never the empty one
  have hempty : "" ∈ (blocks found xs entries).2 ↔ "" ∈ entries := by
    obtain ⟨ds', rest, hrun', hrest⟩ := turns_spec found xs entries
    rw [hrun, Except.ok.injEq, Prod.mk.injEq] at hrun'
    rw [hrun'.2, hrest.mem_iff]
    simp
  constructor
  · intro hne
    obtain ⟨tail, hleft⟩ := (leftovers_ok_iff _).2 (mt hempty.1 hne)
    exact ⟨_, ofEntries_ok hrun hleft, inBlocks_of_turns found hkeys hleft⟩
  · intro hin
    exact ofEntries_invalid hrun (leftovers_eq_error (hempty.2 hin))

theorem discrepancies_in_blocks_sample :
    let e : Expectation :=
      { pattern := "boom", regex := ⟨[], {}, 1⟩, sourceLine := 3, auto := false,
        ownerFile := "x.go", checkerName := "vet", sourceLine_pos := by decide,
        ownerFile_ne := by decide }
    "" ∉ ["x.go:3: boom (lint)", "x.go:4: other (vet)"] ∧
      ∃ v, ofEntries (pureSearch fun _ _ => true) ["x.go:3: boom (lint)", "x.go:4: other (vet)"]
          [e] = .ok v ∧
        InBlocks (fun _ _ => true) [e] ["x.go:3: boom (lint)", "x.go:4: other (vet)"] v :=
  ⟨by decide, (discrepancies_in_blocks _ _ _).1 (by decide)⟩

/-- An empty entry left over makes the check fail on its empty message, where its block and the
discrepancies for the entries left would have stood. -/
theorem ofEntries_empty_leftover_invalid :
    let e : Expectation :=
      { pattern := "boom", regex := ⟨[], {}, 1⟩, sourceLine := 3, auto := false,
        ownerFile := "x.go", checkerName := "vet", sourceLine_pos := by decide,
        ownerFile_ne := by decide }
    ofEntries (pureSearch fun _ _ => true) ["x.go:3: boom (vet)", ""] [e] =
      .error (.invalid [{ loc := ["message"], issue := .stringTooShort }]) := by
  rfl

end Shape

end Verdict

end DiagnosticCheck
