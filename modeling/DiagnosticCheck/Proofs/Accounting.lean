import DiagnosticCheck.Verdict
import Mathlib.Data.Fin.Tuple.Basic
import Mathlib.Tactic.Lemma

/-!
# Accounting of the entries of a check

With a pattern search that never crashes, every entry given to a check ends in exactly one
place. An expectation takes an entry when it has a checker, the entry is reported at the
expectation's target, and the entry is a diagnostic whose text the pattern finds. A turn takes
from the unclaimed entries exactly those its expectation takes and keeps the others, reordered;
so the entries left at the end are, up to order and with their copies, the entries that no
expectation takes. A check that passes gives each entry to an expectation that takes it and
whose checker reported it, and leaves no expectation without an entry.
-/
namespace DiagnosticCheck.Verdict

open scoped List

section Lists

lemma filter_not_and_perm {α : Type} (p q : α → Bool) (l : List α) :
    (l.filter fun x => !(p x && q x)) ~ l.filter (!p ·) ++ (l.filter p).filter (!q ·) := by
  have hout : (l.filter fun x => !(p x && q x)).filter (!p ·) = l.filter (!p ·) := by
    rw [List.filter_filter]
    exact List.filter_congr fun x _ => by cases p x <;> cases q x <;> rfl
  have hin : (l.filter fun x => !(p x && q x)).filter p = (l.filter p).filter (!q ·) := by
    rw [List.filter_filter, List.filter_filter]
    exact List.filter_congr fun x _ => by cases p x <;> cases q x <;> rfl
  calc (l.filter fun x => !(p x && q x))
      _ ~ (l.filter fun x => !(p x && q x)).filter p ++
          (l.filter fun x => !(p x && q x)).filter (!p ·) := (List.filter_append_perm p _).symm
      _ ~ (l.filter fun x => !(p x && q x)).filter (!p ·) ++
          (l.filter fun x => !(p x && q x)).filter p := List.perm_append_comm
      _ = l.filter (!p ·) ++ (l.filter p).filter (!q ·) := by rw [hout, hin]

lemma mapM_eq_ok_iff {α β ε : Type} (f : α → Except ε β) (xs : List α) :
    (∃ ys, xs.mapM f = .ok ys) ↔ ∀ x ∈ xs, ∃ y, f x = .ok y := by
  induction xs with
  | nil => simp [pure, Except.pure]
  | cons x xs ih =>
    simp only [List.mapM_cons, List.mem_cons, forall_eq_or_imp, ← ih]
    cases hx : f x <;> cases hxs : xs.mapM f <;> simp [bind, Except.bind, pure, Except.pure]

/-- A list that is a permutation of the first components of labelled elements can be labelled
position by position, each label taken from a pair with that element, using every label. -/
lemma exists_labelling {α β : Type} [DecidableEq α] [DecidableEq β] (l : List α)
    (taken : List (α × β)) (h : l ~ taken.map Prod.fst) :
    ∃ g : Fin l.length → β, (∀ p, (l[p], g p) ∈ taken) ∧ ∀ t ∈ taken, ∃ p, g p = t.2 := by
  induction l generalizing taken with
  | nil =>
    have : taken = [] := by simpa using h.symm
    subst this
    exact ⟨Fin.elim0, fun p => p.elim0, by simp⟩
  | cons a l ih =>
    obtain ⟨t₀, ht₀, ha⟩ : ∃ t₀ ∈ taken, t₀.1 = a := by
      simpa using h.subset List.mem_cons_self
    have hrest : l ~ (taken.erase t₀).map Prod.fst := by
      have hmove := (List.perm_cons_erase ht₀).map Prod.fst
      rw [List.map_cons, ha] at hmove
      exact (h.trans hmove).cons_inv
    obtain ⟨g, hmem, hsurj⟩ := ih (taken.erase t₀) hrest
    refine ⟨Fin.cons t₀.2 g, fun p => ?_, fun t ht => ?_⟩
    · refine Fin.cases ?_ (fun q => ?_) p
      · simpa [← ha] using ht₀
      · simpa using List.mem_of_mem_erase (hmem q)
    · by_cases hne : t = t₀
      · exact ⟨0, by simp [hne]⟩
      · obtain ⟨q, hq⟩ := hsurj t ((List.mem_erase_of_ne hne).2 ht)
        exact ⟨q.succ, by simp [hq]⟩

end Lists

section Leftovers

lemma make_unmatchedEntry_ok {x : String} (hx : x ≠ "") (w : Option Json) :
    ∃ d, Discrepancy.make? .unmatchedEntry x none none w = .ok d := by
  simp [Discrepancy.make?, hx, Discrepancy.Kind.located]

lemma make_unmatchedEntry_empty (w : Option Json) :
    ∃ errs, Discrepancy.make? .unmatchedEntry "" none none w = .error errs := by
  simp [Discrepancy.make?]

/-- The entries left over can be reported exactly when none of them is empty. -/
theorem leftovers_ok_iff (rest : List String) :
    (∃ tail, leftovers rest = .ok tail) ↔ "" ∉ rest := by
  have each : ∀ x : String, (∃ d, Discrepancy.make? .unmatchedEntry x none none
      (some (.obj [("entry", .str x)])) = .ok d) ↔ x ≠ "" := by
    intro x
    by_cases hx : x = ""
    · obtain ⟨errs, herr⟩ := make_unmatchedEntry_empty (some (.obj [("entry", .str "")]))
      simp [hx, herr]
    · simp [hx, make_unmatchedEntry_ok hx]
  cases rest with
  | nil => simp [leftovers]
  | cons x xs =>
    obtain ⟨m, hm⟩ : ∃ m, Discrepancy.make? .unmatchedMarker "unmatched errors" none none none =
        .ok m := ⟨_, rfl⟩
    have hall := mapM_eq_ok_iff (fun x : String => Discrepancy.make? .unmatchedEntry x none none
      (some (.obj [("entry", .str x)]))) (x :: xs)
    simp only [each] at hall
    rw [show ("" ∉ x :: xs) ↔ ∀ y ∈ x :: xs, y ≠ "" from
      ⟨fun h y hy hy' => h (hy' ▸ hy), fun h hm => h _ hm rfl⟩, ← hall]
    simp only [leftovers, List.isEmpty_cons, Bool.false_eq_true, if_false, hm, bind, Except.bind]
    split <;> simp_all [pure, Except.pure]

variable {search : Expectation → String → Except Crash Bool} {entries rest : List String}
  {xs : List Expectation} {ds : List Discrepancy}

lemma ofEntries_ok {tail : List Discrepancy} (hrun : turns search xs entries = .ok (ds, rest))
    (hleft : leftovers rest = .ok tail) :
    ofEntries search entries xs = .ok ⟨ds ++ tail, rest⟩ := by
  simp [ofEntries, hrun, hleft, Except.mapError, bind, Except.bind, pure, Except.pure]

lemma ofEntries_invalid {errs : List FieldError} (hrun : turns search xs entries = .ok (ds, rest))
    (hleft : leftovers rest = .error errs) :
    ofEntries search entries xs = .error (.invalid errs) := by
  simp [ofEntries, hrun, hleft, Except.mapError, bind, Except.bind]

/-- A verdict is the discrepancies of the turns followed by those of the entries left over. -/
theorem ofEntries_eq_ok {v : Verdict} (hv : ofEntries search entries xs = .ok v) :
    ∃ ds tail, turns search xs entries = .ok (ds, v.unmatched) ∧
      leftovers v.unmatched = .ok tail ∧ v.discrepancies = ds ++ tail := by
  cases hrun : turns search xs entries with
  | error c => simp [ofEntries, hrun, Except.mapError, bind, Except.bind] at hv
  | ok run =>
    obtain ⟨ds, rest⟩ := run
    cases hleft : leftovers rest with
    | error errs => simp [ofEntries_invalid hrun hleft] at hv
    | ok tail =>
      rw [ofEntries_ok hrun hleft] at hv
      cases hv
      exact ⟨ds, tail, rfl, hleft, rfl⟩

end Leftovers

section Turns

variable (found : Expectation → String → Bool)

/-- The search that answers by `found` and never crashes. -/
def pureSearch : Expectation → String → Except Crash Bool :=
  fun e text => .ok (found e text)

def hits (e : Expectation) (x : String) : Bool :=
  (Entry.decompose x).any fun (text, _) => found e text

def accepts (e : Expectation) (x : String) : Bool :=
  e.checkerName != "" && Location.reportedAt x e.target && hits found e x

/-- The kinds of discrepancy one candidate raises: a line that is no diagnostic, or a
diagnostic from another checker. -/
def candidateKinds (e : Expectation) (x : String) : List Discrepancy.Kind :=
  match Entry.decompose x with
  | none => [.unexpectedLine]
  | some (_, checker) => if checker = e.checkerName then [] else [.wrongChecker]

/-- The kinds of discrepancy of one turn, in order. -/
def turnKinds (e : Expectation) (entries : List String) : List Discrepancy.Kind :=
  if e.checkerName = "" then [.noChecker]
  else
    let candidates := entries.filter (Location.reportedAt · e.target)
    if candidates.isEmpty then [.missingError]
    else candidates.flatMap (candidateKinds e) ++
      if candidates.any (hits found e) then [] else [.noMatch]

/-- The entries an expectation's turn leaves: those at other places, then the candidates whose
text its pattern misses, each in their order. An expectation without a checker leaves them all. -/
def remaining (e : Expectation) (entries : List String) : List String :=
  if e.checkerName = "" then entries
  else entries.filter (!Location.reportedAt · e.target) ++
    (entries.filter (Location.reportedAt · e.target)).filter (!hits found e ·)

/-- Where scanning the candidates `cs` from the state `t` leads: the candidates that the
pattern misses are kept in order, the turn has matched once one is found, and each candidate
adds the discrepancies of its kinds. -/
structure Scanned (e : Expectation) (t : Turn) (cs : List String) (t' : Turn) : Prop where
  survivors : t'.survivors = t.survivors ++ cs.filter (!hits found e ·)
  matched : t'.matched = (t.matched || cs.any (hits found e))
  found : ∃ extra, t'.found = t.found ++ extra ∧
    extra.map (·.kind) = cs.flatMap (candidateKinds e)

@[simp] lemma accepts_empty (e : Expectation) : accepts found e "" = false := by
  simp [accepts, Location.reportedAt, Location.withoutDirectory]

lemma scan_cons (e : Expectation) (others : List String) (t : Turn) (c : String)
    (cs : List String) :
    ∃ t₁, scan (pureSearch found) e others t (c :: cs) = scan (pureSearch found) e others t₁ cs ∧
      Scanned found e t [c] t₁ := by
  cases hd : Entry.decompose c with
  | none =>
    simp only [scan, hd]
    exact ⟨_, rfl, by simp [hits, hd], by simp [hits, hd], [_], rfl,
      by simp [candidateKinds, hd, Expectation.discrepancy]⟩
  | some parts =>
    obtain ⟨text, checker⟩ := parts
    have hk : candidateKinds e c = if checker = e.checkerName then [] else [.wrongChecker] := by
      simp [candidateKinds, hd]
    have hh : hits found e c = found e text := by simp [hits, hd]
    by_cases hc : checker = e.checkerName
    · cases hf : found e text <;>
        simp only [scan, hd, pureSearch, hf, hc, bind, Except.bind, ↓reduceIte, Bool.false_eq_true] <;>
        exact ⟨_, rfl, by simp [hh, hf], by simp [hh, hf], [], (List.append_nil _).symm,
          by simp [hk, hc]⟩
    · cases hf : found e text <;>
        simp only [scan, hd, pureSearch, hf, hc, bind, Except.bind, ↓reduceIte, Bool.false_eq_true] <;>
        exact ⟨_, rfl, by simp [hh, hf], by simp [hh, hf], [_], rfl,
          by simp [hk, hc, Expectation.discrepancy]⟩

variable {found} in
lemma Scanned.nil (e : Expectation) (t : Turn) : Scanned found e t [] t :=
  ⟨by simp, by simp, [], by simp, rfl⟩

variable {found} in
lemma Scanned.append {e : Expectation} {t t₁ t₂ : Turn} {cs₁ cs₂ : List String}
    (h₁ : Scanned found e t cs₁ t₁) (h₂ : Scanned found e t₁ cs₂ t₂) :
    Scanned found e t (cs₁ ++ cs₂) t₂ := by
  obtain ⟨extra₁, hf₁, hk₁⟩ := h₁.found
  obtain ⟨extra₂, hf₂, hk₂⟩ := h₂.found
  exact ⟨by simp [h₂.survivors, h₁.survivors], by simp [h₂.matched, h₁.matched, Bool.or_assoc],
    extra₁ ++ extra₂, by simp [hf₂, hf₁], by simp [hk₁, hk₂]⟩

/-- Scanning never fails under a search that never crashes, and leads where `Scanned` says. -/
theorem scan_spec (e : Expectation) (others : List String) (t : Turn) (cs : List String) :
    ∃ t', scan (pureSearch found) e others t cs = .ok t' ∧ Scanned found e t cs t' := by
  induction cs generalizing t with
  | nil => exact ⟨t, rfl, Scanned.nil e t⟩
  | cons c cs ih =>
    obtain ⟨t₁, hstep, hs₁⟩ := scan_cons found e others t c cs
    obtain ⟨t₂, hrun, hs₂⟩ := ih t₁
    exact ⟨t₂, hstep.trans hrun, hs₁.append hs₂⟩

/-- A turn leaves exactly the entries `remaining` gives and raises the discrepancies that
`turnKinds` lists. -/
theorem turn_eq (e : Expectation) (entries : List String) :
    ∃ ds, turn (pureSearch found) e entries = .ok (ds, remaining found e entries) ∧
      ds.map (·.kind) = turnKinds found e entries := by
  unfold turn
  by_cases hc : e.checkerName = ""
  · simp only [hc, if_true, remaining]
    exact ⟨_, rfl, by simp [turnKinds, hc, Expectation.discrepancy]⟩
  · simp only [hc, if_false, Location.partition, List.partition_eq_filter_filter]
    by_cases hn : (entries.filter (Location.reportedAt · e.target)).isEmpty
    · have hleft : remaining found e entries = entries := by
        have hnone : ∀ y ∈ entries, Location.reportedAt y e.target = false := by
          simpa [List.filter_eq_nil_iff] using hn
        simp only [remaining, hc, if_false, List.isEmpty_iff.1 hn, List.filter_nil,
          List.append_nil]
        exact List.filter_eq_self.2 fun y hy => by simp [hnone y hy]
      simp only [hn, if_true, hleft]
      exact ⟨_, rfl, by simp [turnKinds, hc, hn, Expectation.discrepancy]⟩
    · obtain ⟨t, hrun, hs⟩ := scan_spec found e
        (entries.filter (not ∘ fun x => Location.reportedAt x e.target)) {}
        (entries.filter (Location.reportedAt · e.target))
      obtain ⟨extra, hfound, hkinds⟩ := hs.found
      have hleft : entries.filter (not ∘ fun x => Location.reportedAt x e.target) ++ t.survivors =
          remaining found e entries := by
        simp [remaining, hc, hs.survivors, Function.comp_def]
      simp only [hn, Bool.false_eq_true, if_false, hrun, bind, Except.bind, pure, Except.pure,
        hleft]
      refine ⟨_, rfl, ?_⟩
      have hmatched : t.matched = (entries.filter (Location.reportedAt · e.target)).any
          (hits found e) := by simpa using hs.matched
      simp only [turnKinds, hc, hn, if_false, Bool.false_eq_true, List.map_append, hfound,
        hkinds, hmatched]
      split <;> rfl

/-- What a turn leaves is, up to order, the entries its expectation does not take. -/
lemma remaining_perm (e : Expectation) (entries : List String) :
    remaining found e entries ~ entries.filter (!accepts found e ·) := by
  by_cases hc : e.checkerName = ""
  · rw [remaining, if_pos hc, List.filter_eq_self.2 (by simp [accepts, hc])]
  · have hacc : ∀ x, accepts found e x = (Location.reportedAt x e.target && hits found e x) := by
      simp [accepts, bne_iff_ne.2 hc]
    rw [remaining, if_neg hc, List.filter_congr fun x _ => congrArg (! ·) (hacc x)]
    exact (filter_not_and_perm _ _ entries).symm

/-- One turn keeps, up to order, exactly the entries its expectation does not take, and raises
the discrepancies that `turnKinds` lists. -/
theorem turn_spec (e : Expectation) (entries : List String) :
    ∃ ds left, turn (pureSearch found) e entries = .ok (ds, left) ∧
      left ~ entries.filter (!accepts found e ·) ∧ ds.map (·.kind) = turnKinds found e entries := by
  obtain ⟨ds, hturn, hkinds⟩ := turn_eq found e entries
  exact ⟨ds, _, hturn, remaining_perm found e entries, hkinds⟩

/-- A turn without discrepancies has a checker, takes at least one entry, and every candidate is
a diagnostic of its checker. -/
lemma turnKinds_eq_nil {e : Expectation} {entries : List String}
    (h : turnKinds found e entries = []) :
    e.checkerName ≠ "" ∧ (∃ x ∈ entries, accepts found e x) ∧
      ∀ x ∈ entries, Location.reportedAt x e.target →
        (Entry.decompose x).map Prod.snd = some e.checkerName := by
  unfold turnKinds at h
  by_cases hc : e.checkerName = ""
  · simp [hc] at h
  by_cases hn : (entries.filter (Location.reportedAt · e.target)).isEmpty
  · simp only [hc, hn, if_false, if_true] at h
    cases h
  simp only [hc, hn, if_false, Bool.false_eq_true] at h
  obtain ⟨hflat, hmiss⟩ := List.append_eq_nil_iff.1 h
  have hany : (entries.filter (Location.reportedAt · e.target)).any (hits found e) = true := by
    cases hb : (entries.filter (Location.reportedAt · e.target)).any (hits found e)
    · simp [hb] at hmiss
    · rfl
  refine ⟨hc, ?_, ?_⟩
  · obtain ⟨x, hx, hhit⟩ := List.any_eq_true.1 hany
    rw [List.mem_filter] at hx
    exact ⟨x, hx.1, by simp [accepts, bne_iff_ne.2 hc, hx.2, hhit]⟩
  · intro x hx hr
    have hk := List.flatMap_eq_nil_iff.1 hflat x (List.mem_filter.2 ⟨hx, hr⟩)
    unfold candidateKinds at hk
    split at hk
    · cases hk
    · rename_i text checker hd
      split at hk
      · rename_i hck
        simp [hd, hck]
      · cases hk

/-- The turns of all expectations leave, up to order, the entries that none of them takes. -/
theorem turns_spec (xs : List Expectation) (entries : List String) :
    ∃ ds rest, turns (pureSearch found) xs entries = .ok (ds, rest) ∧
      rest ~ entries.filter fun x => !xs.any (accepts found · x) := by
  induction xs generalizing entries with
  | nil => exact ⟨[], entries, rfl, by rw [List.filter_eq_self.2 (by simp)]⟩
  | cons e xs ih =>
    obtain ⟨ds₁, left, hturn, hleft, -⟩ := turn_spec found e entries
    obtain ⟨ds₂, rest, hrun, hrest⟩ := ih left
    refine ⟨ds₁ ++ ds₂, rest, by simp [turns, hturn, hrun, bind, Except.bind, pure, Except.pure], ?_⟩
    calc rest
        _ ~ left.filter fun x => !xs.any (accepts found · x) := hrest
        _ ~ (entries.filter (!accepts found e ·)).filter fun x => !xs.any (accepts found · x) :=
          hleft.filter _
        _ = entries.filter fun x => !(e :: xs).any (accepts found · x) := by
          rw [List.filter_filter]
          exact List.filter_congr fun x _ => by simp [Bool.and_comm]

/-- Turns without discrepancies hand each entry they take to an expectation that takes it and
whose checker reported it, and every expectation receives an entry. -/
theorem turns_consumed (xs : List Expectation) (entries rest : List String)
    (hrun : turns (pureSearch found) xs entries = .ok ([], rest)) :
    ∃ taken : List (String × Fin xs.length), entries ~ taken.map Prod.fst ++ rest ∧
      (∀ t ∈ taken, accepts found xs[t.2] t.1 ∧
        (Entry.decompose t.1).map Prod.snd = some xs[t.2].checkerName) ∧
      ∀ i, ∃ t ∈ taken, t.2 = i := by
  induction xs generalizing entries with
  | nil =>
    cases hrun
    exact ⟨[], by simp, by simp, fun i => i.elim0⟩
  | cons e xs ih =>
    obtain ⟨ds₁, left, hturn, hleft, hkinds⟩ := turn_spec found e entries
    obtain ⟨ds₂, rest₂, hrun₂, -⟩ := turns_spec found xs left
    have hsplit : ds₁ ++ ds₂ = [] ∧ rest₂ = rest := by
      simpa [turns, hturn, hrun₂, bind, Except.bind, pure, Except.pure] using hrun
    obtain ⟨hds, rfl⟩ := hsplit
    obtain ⟨rfl, rfl⟩ := List.append_eq_nil_iff.1 hds
    obtain ⟨hc, ⟨y, hy, hacc⟩, hcheck⟩ := turnKinds_eq_nil found (by simpa using hkinds.symm)
    obtain ⟨taken, hperm, hgood, hall⟩ := ih left hrun₂
    -- the first turn's entries are labelled 0, the later turns' labels move up by one
    refine ⟨(entries.filter (accepts found e)).map (·, 0) ++ taken.map fun t => (t.1, t.2.succ),
      ?_, ?_, ?_⟩
    · calc entries
          _ ~ entries.filter (accepts found e) ++ entries.filter (!accepts found e ·) :=
            (List.filter_append_perm _ _).symm
          _ ~ entries.filter (accepts found e) ++ (taken.map Prod.fst ++ rest₂) :=
            (hleft.symm.trans hperm).append_left _
          _ = _ := by simp [Function.comp_def]
    · intro t ht
      simp only [List.mem_append, List.mem_map, List.mem_filter] at ht
      rcases ht with ⟨x, ⟨hx, hxacc⟩, rfl⟩ | ⟨t', ht', rfl⟩
      · have hr : Location.reportedAt x e.target = true := by
          simp only [accepts, Bool.and_eq_true] at hxacc
          exact hxacc.1.2
        exact ⟨hxacc, hcheck x hx hr⟩
      · simpa using hgood t' ht'
    · intro i
      refine Fin.cases ⟨(y, 0), by simp [hy, hacc], rfl⟩ (fun j => ?_) i
      obtain ⟨t, ht, hj⟩ := hall j
      exact ⟨(t.1, t.2.succ), List.mem_append_right _ (List.mem_map_of_mem ht), by simp [hj]⟩

/-- With a search that never crashes, the entries a check leaves over are, up to order and with
their copies, the entries that no expectation takes. An empty entry is never taken and cannot be
reported, so a check given one has no verdict; every other list of entries has one. -/
theorem unmatched_perm_unaccepted (entries : List String) (xs : List Expectation) :
    ("" ∉ entries → ∃ v, ofEntries (pureSearch found) entries xs = .ok v ∧
      v.unmatched ~ entries.filter fun x => !xs.any (accepts found · x)) ∧
    ("" ∈ entries → ∃ failure, ofEntries (pureSearch found) entries xs = .error failure) := by
  obtain ⟨ds, rest, hrun, hrest⟩ := turns_spec found xs entries
  have hempty : "" ∈ rest ↔ "" ∈ entries := by simp [hrest.mem_iff]
  constructor
  · intro hne
    obtain ⟨tail, hleft⟩ := (leftovers_ok_iff rest).2 (mt hempty.1 hne)
    exact ⟨_, ofEntries_ok hrun hleft, hrest⟩
  · intro hin
    cases hleft : leftovers rest with
    | ok tail => exact absurd (hempty.2 hin) ((leftovers_ok_iff rest).1 ⟨tail, hleft⟩)
    | error errs => exact ⟨_, ofEntries_invalid hrun hleft⟩

theorem unmatched_perm_unaccepted_sample :
    let e : Expectation :=
      { pattern := "boom", regex := ⟨[], {}, 1⟩, sourceLine := 3, auto := false,
        ownerFile := "x.go", checkerName := "vet", sourceLine_pos := by decide,
        ownerFile_ne := by decide }
    "" ∉ ["x.go:3: boom (vet)", "x.go:4: boom (vet)"] ∧
      ∃ v, ofEntries (pureSearch fun _ _ => true) ["x.go:3: boom (vet)", "x.go:4: boom (vet)"]
          [e] = .ok v ∧
        v.unmatched ~ ["x.go:3: boom (vet)", "x.go:4: boom (vet)"].filter
          fun x => !([e].any (accepts (fun _ _ => true) · x)) :=
  ⟨by decide, (unmatched_perm_unaccepted _ _ _).1 (by decide)⟩

/-- A check given an empty entry has no verdict, even without expectations. -/
theorem ofEntries_empty_entry_fails :
    ¬ ∃ v, ofEntries (pureSearch fun _ _ => true) [""] [] = .ok v := by
  rintro ⟨v, hv⟩
  cases hv

/-- A check that passes, with a search that never crashes, pairs entries with expectations: every
expectation has a checker, and each entry goes to an expectation that takes it and whose checker
reported it, every expectation receiving at least one entry. -/
theorem exists_assignment_of_passed (entries : List String) (xs : List Expectation) (v : Verdict)
    (hv : ofEntries (pureSearch found) entries xs = .ok v) (hpass : v.passed = true) :
    (∀ e ∈ xs, e.checkerName ≠ "") ∧
      ∃ f : Fin entries.length → Fin xs.length, Function.Surjective f ∧
        ∀ p, accepts found xs[f p] entries[p] ∧
          (Entry.decompose entries[p]).map Prod.snd = some xs[f p].checkerName := by
  obtain ⟨ds, tail, hrun, -, hdisc⟩ := ofEntries_eq_ok hv
  have hempty : v.discrepancies = [] ∧ v.unmatched = [] := by simpa [passed] using hpass
  have hds : ds = [] := by
    rw [hempty.1] at hdisc
    exact (List.append_eq_nil_iff.1 hdisc.symm).1
  rw [hds, hempty.2] at hrun
  obtain ⟨taken, hperm, hgood, hall⟩ := turns_consumed found xs entries [] hrun
  obtain ⟨f, hmem, hsurj⟩ := exists_labelling entries taken (by simpa using hperm)
  refine ⟨fun e he => ?_, f, fun i => ?_, fun p => hgood _ (hmem p)⟩
  · obtain ⟨i, hi, rfl⟩ := List.getElem_of_mem he
    obtain ⟨⟨x, j⟩, ht, hj⟩ := hall ⟨i, hi⟩
    have hacc := (hgood _ ht).1
    simp only at hj
    subst hj
    simp only [accepts, Bool.and_eq_true, bne_iff_ne] at hacc
    exact hacc.1.1
  · obtain ⟨t, ht, rfl⟩ := hall i
    exact hsurj t ht

theorem exists_assignment_of_passed_sample :
    let e : Expectation :=
      { pattern := "boom", regex := ⟨[], {}, 1⟩, sourceLine := 3, auto := false,
        ownerFile := "x.go", checkerName := "vet", sourceLine_pos := by decide,
        ownerFile_ne := by decide }
    let entries := ["x.go:3: boom (vet)", "dir/x.go:3: boom again (vet)"]
    ∃ v, ofEntries (pureSearch fun _ _ => true) entries [e] = .ok v ∧ v.passed = true ∧
      (∀ e' ∈ [e], e'.checkerName ≠ "") ∧
        ∃ f : Fin entries.length → Fin [e].length, Function.Surjective f ∧
          ∀ p, accepts (fun _ _ => true) [e][f p] entries[p] ∧
            (Entry.decompose entries[p]).map Prod.snd = some [e][f p].checkerName := by
  intro e entries
  have hpass : (ofEntries (pureSearch fun _ _ => true) entries [e]).toOption.map passed =
      some true := by decide
  cases hv : ofEntries (pureSearch fun _ _ => true) entries [e] with
  | error failure => simp [hv, Except.toOption] at hpass
  | ok v =>
    have hp : v.passed = true := by simpa [hv, Except.toOption] using hpass
    exact ⟨v, rfl, hp, exists_assignment_of_passed _ _ _ _ hv hp⟩

end Turns

end DiagnosticCheck.Verdict
