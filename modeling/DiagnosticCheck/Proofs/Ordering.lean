import DiagnosticCheck.Proofs.Blocks
import Mathlib

/-!
# The verdict does not depend on the order of the output

With a search that never crashes, reordering the entries of an output changes neither whether a
check passes nor the kinds and places of its discrepancies, counted with their copies: only the
messages that cite the entries, and the order, may change. Reordering the expectations changes
neither when no entry is at the places of two expectations that have checkers.

Each turn depends on the unclaimed entries only through its candidates, and what it leaves is,
up to order, the entries it does not take; so the blocks of two runs over reordered entries
differ only in order (`blocks_perm_entries`). Two neighbouring expectations with separate places
see the same candidates whichever goes first, and together leave the same entries up to order
(`blocks_swap`); any reordering of the expectations is made of such swaps.
-/

namespace DiagnosticCheck.Verdict

open scoped List

/-- A verdict up to the order of its discrepancies: whether it passed, and the kinds and places
of its discrepancies as a multiset. -/
def outline (v : Verdict) : Bool × Multiset (Discrepancy.Kind × Option String × Option Nat) :=
  (v.passed, (v.discrepancies.map Discrepancy.key : Multiset _))

/-- Two expectations are separate on some entries when, if both have a checker, no entry is at
both of their places. -/
def Separate (entries : List String) (e₁ e₂ : Expectation) : Prop :=
  e₁.checkerName ≠ "" → e₂.checkerName ≠ "" →
    ∀ x ∈ entries, ¬ (Location.reportedAt x e₁.target = true ∧
      Location.reportedAt x e₂.target = true)

lemma Separate.symm {entries : List String} {e₁ e₂ : Expectation}
    (h : Separate entries e₁ e₂) : Separate entries e₂ e₁ :=
  fun h₂ h₁ x hx hboth => h h₁ h₂ x hx ⟨hboth.2, hboth.1⟩

/-- The keys of the discrepancies for the entries left over: the marker and one per entry when
some are left. -/
def leftoverKeys (rest : List String) : List (Discrepancy.Kind × Option String × Option Nat) :=
  if rest = [] then []
  else (.unmatchedMarker, none, none) :: List.replicate rest.length (.unmatchedEntry, none, none)

lemma leftoverKeys_perm {rest rest' : List String} (h : rest ~ rest') :
    leftoverKeys rest = leftoverKeys rest' := by
  have hnil : rest = [] ↔ rest' = [] := by
    rw [← List.isEmpty_iff, ← List.isEmpty_iff, h.isEmpty_eq]
  simp only [leftoverKeys, hnil, h.length_eq]

lemma keys_of_leftovers {rest : List String} {tail : List Discrepancy}
    (h : leftovers rest = .ok tail) : tail.map Discrepancy.key = leftoverKeys rest := by
  have hkeys : tail.map Discrepancy.key = (tail.map Discrepancy.view).map fun v => (v.1, v.2.2) := by
    simp [Function.comp_def, Discrepancy.key, Discrepancy.view]
  rw [hkeys, leftovers_views h]
  by_cases hr : rest = [] <;> simp [leftoverViews, leftoverKeys, hr, Function.comp_def, List.map_const']

section Outline

variable (found : Expectation → String → Bool)

/-- What the blocks of a check and the entries it leaves make of its outline: a failure on an
empty entry left over, else whether no discrepancy and no entry is left, with the keys of the
blocks and of the discrepancies for the entries left. -/
def outlineOf (r : List (List (Discrepancy.Kind × Option String × Option Nat)) × List String) :
    Except Failure (Bool × Multiset (Discrepancy.Kind × Option String × Option Nat)) :=
  if "" ∈ r.2 then .error (.invalid [{ loc := ["message"], issue := .stringTooShort }])
  else .ok ((r.1.flatten ++ leftoverKeys r.2).isEmpty && r.2.isEmpty,
    ((r.1.flatten ++ leftoverKeys r.2 : List _) : Multiset _))

lemma ofEntries_map_outline (entries : List String) (xs : List Expectation) :
    (ofEntries (pureSearch found) entries xs).map outline = outlineOf (blocks found xs entries) := by
  obtain ⟨ds, hrun, hkeys⟩ := turns_blocks found xs entries
  by_cases hempty : "" ∈ (blocks found xs entries).2
  · rw [ofEntries_invalid hrun (leftovers_eq_error hempty), outlineOf, if_pos hempty]
    rfl
  · obtain ⟨tail, hleft⟩ := (leftovers_ok_iff _).2 hempty
    have hall : (ds ++ tail).map Discrepancy.key =
        (blocks found xs entries).1.flatten ++ leftoverKeys (blocks found xs entries).2 := by
      rw [List.map_append, hkeys, keys_of_leftovers hleft]
    rw [ofEntries_ok hrun hleft, outlineOf, if_neg hempty, ← hall]
    simp only [Except.map, outline, passed, List.isEmpty_map]

def Similar (r r' : List (List (Discrepancy.Kind × Option String × Option Nat)) × List String) :
    Prop :=
  r.1.flatten ~ r'.1.flatten ∧ r.2 ~ r'.2

lemma Similar.trans {r r' r'' : List (List (Discrepancy.Kind × Option String × Option Nat)) ×
    List String} (h : Similar r r') (h' : Similar r' r'') : Similar r r'' :=
  ⟨h.1.trans h'.1, h.2.trans h'.2⟩

lemma outlineOf_similar {r r' : List (List (Discrepancy.Kind × Option String × Option Nat)) ×
    List String} (h : Similar r r') : outlineOf r = outlineOf r' := by
  have hall : r.1.flatten ++ leftoverKeys r.2 ~ r'.1.flatten ++ leftoverKeys r'.2 := by
    rw [leftoverKeys_perm h.2]
    exact h.1.append_right _
  simp only [outlineOf, h.2.mem_iff, hall.isEmpty_eq, h.2.isEmpty_eq, Multiset.coe_eq_coe.2 hall]

end Outline

section Entries

variable (found : Expectation → String → Bool)

/-- A turn's kinds depend on the unclaimed entries only through its candidates. -/
lemma turnKinds_congr (e : Expectation) {entries entries' : List String}
    (h : entries.filter (Location.reportedAt · e.target) =
      entries'.filter (Location.reportedAt · e.target)) :
    turnKinds found e entries = turnKinds found e entries' := by
  simp only [turnKinds, h]

lemma turnKinds_perm (e : Expectation) {entries entries' : List String} (h : entries ~ entries') :
    turnKinds found e entries ~ turnKinds found e entries' := by
  have hc := h.filter (Location.reportedAt · e.target)
  unfold turnKinds
  by_cases hn : e.checkerName = ""
  · simp [hn]
  · simp only [hn, if_false, hc.isEmpty_eq, hc.any_eq]
    split
    · rfl
    · exact (hc.flatMap_right _).append_right _

lemma remaining_perm_perm (e : Expectation) {entries entries' : List String}
    (h : entries ~ entries') : remaining found e entries ~ remaining found e entries' := by
  unfold remaining
  split
  · exact h
  · exact (h.filter _).append ((h.filter _).filter _)

lemma mem_of_mem_remaining {e : Expectation} {entries : List String} {x : String}
    (h : x ∈ remaining found e entries) : x ∈ entries :=
  (List.mem_filter.1 ((remaining_perm found e entries).subset h)).1

/-- Blocks over reordered entries are the same blocks, reordered, and leave the same entries up
to order. -/
lemma blocks_perm_entries (xs : List Expectation) {entries entries' : List String}
    (h : entries ~ entries') : Similar (blocks found xs entries) (blocks found xs entries') := by
  induction xs generalizing entries entries' with
  | nil => exact ⟨List.Perm.refl _, h⟩
  | cons e es ih =>
    obtain ⟨hkeys, hrest⟩ := ih (remaining_perm_perm found e h)
    refine ⟨?_, hrest⟩
    simp only [blocks, List.flatten_cons]
    exact ((turnKinds_perm found e h).map _).append hkeys

end Entries

section Expectations

variable (found : Expectation → String → Bool)

lemma blockKeys_remaining {E : List String} {e₁ e₂ : Expectation} (hsep : Separate E e₁ e₂)
    {entries : List String} (hsub : ∀ x ∈ entries, x ∈ E) :
    blockKeys found e₂ (remaining found e₁ entries) = blockKeys found e₂ entries := by
  by_cases h₂ : e₂.checkerName = ""
  · simp [blockKeys, turnKinds, h₂]
  by_cases h₁ : e₁.checkerName = ""
  · simp [remaining, h₁]
  have hsep' := hsep h₁ h₂
  -- what `e₁` keeps of its own candidates holds none of `e₂`'s; the others keep all of them
  have hkept : ((entries.filter (Location.reportedAt · e₁.target)).filter
      (!hits found e₁ ·)).filter (Location.reportedAt · e₂.target) = [] := by
    refine List.filter_eq_nil_iff.2 fun x hx hx₂ => ?_
    have hx₁ := List.mem_filter.1 (List.mem_filter.1 hx).1
    exact hsep' x (hsub x hx₁.1) ⟨hx₁.2, hx₂⟩
  have hothers : (entries.filter (!Location.reportedAt · e₁.target)).filter
      (Location.reportedAt · e₂.target) = entries.filter (Location.reportedAt · e₂.target) := by
    rw [List.filter_filter]
    refine List.filter_congr fun x hx => ?_
    cases hr₂ : Location.reportedAt x e₂.target
    · simp
    · have hr₁ : Location.reportedAt x e₁.target = false := by
        cases hr₁ : Location.reportedAt x e₁.target
        · rfl
        · exact absurd ⟨hr₁, hr₂⟩ (hsep' x (hsub x hx))
      simp [hr₁]
  have hcand : (remaining found e₁ entries).filter (Location.reportedAt · e₂.target) =
      entries.filter (Location.reportedAt · e₂.target) := by
    rw [remaining, if_neg h₁, List.filter_append, hkept, List.append_nil, hothers]
  simp only [blockKeys, turnKinds_congr found e₂ hcand]

lemma remaining_comm (e₁ e₂ : Expectation) (entries : List String) :
    remaining found e₂ (remaining found e₁ entries) ~
      remaining found e₁ (remaining found e₂ entries) := by
  calc remaining found e₂ (remaining found e₁ entries)
      _ ~ (remaining found e₁ entries).filter (!accepts found e₂ ·) := remaining_perm found _ _
      _ ~ (entries.filter (!accepts found e₁ ·)).filter (!accepts found e₂ ·) :=
        (remaining_perm found _ _).filter _
      _ = (entries.filter (!accepts found e₂ ·)).filter (!accepts found e₁ ·) := by
        simp only [List.filter_filter, Bool.and_comm]
      _ ~ (remaining found e₂ entries).filter (!accepts found e₁ ·) :=
        ((remaining_perm found _ _).filter _).symm
      _ ~ remaining found e₁ (remaining found e₂ entries) := (remaining_perm found _ _).symm

/-- Swapping two neighbouring expectations with separate places gives the same blocks up to
order, leaving the same entries up to order. -/
lemma blocks_swap {E : List String} {e₁ e₂ : Expectation} (hsep : Separate E e₁ e₂)
    (es : List Expectation) {entries : List String} (hsub : ∀ x ∈ entries, x ∈ E) :
    Similar (blocks found (e₁ :: e₂ :: es) entries) (blocks found (e₂ :: e₁ :: es) entries) := by
  obtain ⟨hkeys, hrest⟩ := blocks_perm_entries found es (remaining_comm found e₁ e₂ entries)
  refine ⟨?_, hrest⟩
  simp only [blocks, List.flatten_cons, blockKeys_remaining found hsep hsub,
    blockKeys_remaining found hsep.symm hsub, ← List.append_assoc]
  exact List.perm_append_comm.append hkeys

/-- Reordering expectations whose places are pairwise separate gives the same blocks up to order,
leaving the same entries up to order. -/
lemma blocks_perm_expectations {E : List String} {xs xs' : List Expectation} (h : xs ~ xs') :
    ∀ {entries : List String}, (∀ x ∈ entries, x ∈ E) → xs.Pairwise (Separate E) →
      Similar (blocks found xs entries) (blocks found xs' entries) := by
  induction h with
  | nil => exact fun _ _ => ⟨List.Perm.refl _, List.Perm.refl _⟩
  | cons e _ ih =>
    intro entries hsub hsep
    obtain ⟨hkeys, hrest⟩ := ih (fun x hx => hsub x (mem_of_mem_remaining found hx))
      (List.pairwise_cons.1 hsep).2
    refine ⟨?_, hrest⟩
    simp only [blocks, List.flatten_cons]
    exact hkeys.append_left _
  | swap x y es =>
    intro entries hsub hsep
    exact blocks_swap found ((List.pairwise_cons.1 hsep).1 x List.mem_cons_self) es hsub
  | trans h₁₂ _ ih₁₂ ih₂₃ =>
    intro entries hsub hsep
    exact (ih₁₂ hsub hsep).trans (ih₂₃ hsub ((h₁₂.pairwise_iff Separate.symm).1 hsep))

/-- With a search that never crashes, a check over reordered entries has the same outline:
whether it passes, and the kinds and places of its discrepancies with their copies; a check
given an empty entry fails the same way. The same holds for reordered expectations when no entry
is at the places of two expectations that have checkers. -/
theorem outline_perm_invariant (entries : List String) (xs : List Expectation) :
    (∀ entries', entries ~ entries' →
      (ofEntries (pureSearch found) entries' xs).map outline =
        (ofEntries (pureSearch found) entries xs).map outline) ∧
    (∀ xs', xs ~ xs' → xs.Pairwise (Separate entries) →
      (ofEntries (pureSearch found) entries xs').map outline =
        (ofEntries (pureSearch found) entries xs).map outline) := by
  refine ⟨fun entries' h => ?_, fun xs' h hsep => ?_⟩
  · rw [ofEntries_map_outline, ofEntries_map_outline]
    exact outlineOf_similar (blocks_perm_entries found xs h.symm)
  · rw [ofEntries_map_outline, ofEntries_map_outline]
    exact outlineOf_similar (blocks_perm_expectations found h.symm (fun _ hx => hx)
      ((h.pairwise_iff Separate.symm).1 hsep))

theorem outline_perm_invariant_sample :
    let e₁ : Expectation :=
      { pattern := "boom", regex := ⟨[], {}, 1⟩, sourceLine := 3, auto := false,
        ownerFile := "x.go", checkerName := "vet", sourceLine_pos := by decide,
        ownerFile_ne := by decide }
    let e₂ : Expectation :=
      { pattern := "bang", regex := ⟨[], {}, 1⟩, sourceLine := 4, auto := false,
        ownerFile := "x.go", checkerName := "lint", sourceLine_pos := by decide,
        ownerFile_ne := by decide }
    let entries := ["x.go:3: boom (vet)", "x.go:4: bang (vet)", "x.go:9: other (vet)"]
    (entries ~ entries.reverse ∧
      (ofEntries (pureSearch fun _ _ => true) entries.reverse [e₁, e₂]).map outline =
        (ofEntries (pureSearch fun _ _ => true) entries [e₁, e₂]).map outline) ∧
    ([e₁, e₂] ~ [e₂, e₁] ∧ [e₁, e₂].Pairwise (Separate entries) ∧
      (ofEntries (pureSearch fun _ _ => true) entries [e₂, e₁]).map outline =
        (ofEntries (pureSearch fun _ _ => true) entries [e₁, e₂]).map outline) := by
  intro e₁ e₂ entries
  have hperm : entries ~ entries.reverse := (List.reverse_perm _).symm
  have hswap : [e₁, e₂] ~ [e₂, e₁] := List.Perm.swap e₂ e₁ []
  have hsep : [e₁, e₂].Pairwise (Separate entries) := by
    rw [List.pairwise_pair]
    unfold Separate
    decide
  exact ⟨⟨hperm, (outline_perm_invariant _ _ _).1 _ hperm⟩,
    ⟨hswap, hsep, (outline_perm_invariant _ _ _).2 _ hswap hsep⟩⟩

end Expectations

end DiagnosticCheck.Verdict
