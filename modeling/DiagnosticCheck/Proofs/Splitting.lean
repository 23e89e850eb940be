import DiagnosticCheck.Output
import Mathlib

/-!
# The entries of a tool output

Splitting an output gives entries of one shape. The first line of an entry could start an
entry: it is not blank, has none of the noise prefixes and, unless generated code is wanted, is
not from generated code; only the first entry's first line may start with a tab. Every later line
of an entry starts with a tab, and no line ends with a carriage return. So no entry is empty, and
splitting the entries again, joined by line feeds, gives them back.

The fold over the lines keeps this shape of the entries found so far (`Found.step`), whatever
lines were dropped between an entry and its continuation. Conversely the fold regroups the lines
of shaped entries one entry at a time (`foldl_step_entryLines`), which gives the second split.
-/

namespace DiagnosticCheck.Output

def entryLines (x : String) : List String :=
  Text.splitOnChar x '\n'

def firstLine (x : String) : String :=
  (entryLines x).headD ""

/-- The shape of an entry of split output: its first line is not blank, has none of the noise
prefixes and, unless generated code is wanted, is not from generated code; its other lines start
with a tab; and no line ends with a carriage return. -/
structure Shaped (noise : List String) (wantAuto : Bool) (x : String) : Prop where
  nonblank : Text.strip (firstLine x) ≠ ""
  quiet : ∀ p ∈ noise, Text.startsWith (firstLine x) p = false
  generated : wantAuto = false → Text.startsWith (firstLine x) autogenerated = false
  continued : ∀ l ∈ (entryLines x).tail, Text.startsWith l "\t" = true
  unreturned : ∀ l ∈ entryLines x, l.toList.getLast? ≠ some '\r'

section Lines

/-- No piece of a list split at a separator holds the separator. -/
lemma not_mem_of_mem_splitOn {a : Char} :
    ∀ {cs piece : List Char}, piece ∈ cs.splitOn a → a ∉ piece
  | [], piece, h => by simp_all
  | c :: cs, piece, h => by
    rw [List.splitOn_cons_eq_if_modifyHead] at h
    split at h
    · rcases List.mem_cons.1 h with rfl | h
      · exact List.not_mem_nil
      · exact not_mem_of_mem_splitOn h
    · rename_i hc
      obtain ⟨first, rest, hsplit⟩ := List.exists_cons_of_ne_nil (List.splitOn_ne_nil a cs)
      rw [hsplit, List.modifyHead_cons] at h
      rcases List.mem_cons.1 h with rfl | h
      · have hfirst : a ∉ first := not_mem_of_mem_splitOn (hsplit ▸ List.mem_cons_self)
        simp only [List.mem_cons, not_or]
        exact ⟨fun hac => hc (by simp [hac]), hfirst⟩
      · exact not_mem_of_mem_splitOn (hsplit ▸ List.mem_cons_of_mem _ h)

lemma newline_not_mem_of_mem_entryLines {x l : String} (hl : l ∈ entryLines x) :
    '\n' ∉ l.toList := by
  obtain ⟨piece, hpiece, rfl⟩ := List.mem_map.1 hl
  rw [String.toList_ofList]
  exact not_mem_of_mem_splitOn hpiece

lemma entryLines_ne_nil (x : String) : entryLines x ≠ [] := by
  simp [entryLines, Text.splitOnChar]

lemma entryLines_of_newline_free {l : String} (h : '\n' ∉ l.toList) : entryLines l = [l] := by
  simp [entryLines, Text.splitOnChar, List.splitOn_eq_singleton h]

lemma entryLines_append_newline (x l : String) :
    entryLines (x ++ "\n" ++ l) = entryLines x ++ entryLines l := by
  simp only [entryLines, Text.splitOnChar, String.append_assoc, String.toList_append]
  rw [show "\n".toList = ['\n'] from rfl, List.singleton_append, List.splitOn_append_cons_self,
    List.map_append]

@[simp] lemma intercalate_entryLines (x : String) : "\n".intercalate (entryLines x) = x := by
  rw [String.ext_iff, String.toList_intercalate, entryLines, Text.splitOnChar, List.map_map]
  simp [Function.comp_def, show "\n".toList = ['\n'] from rfl]

lemma firstLine_append_newline (x l : String) : firstLine (x ++ "\n" ++ l) = firstLine x := by
  obtain ⟨first, rest, hx⟩ := List.exists_cons_of_ne_nil (entryLines_ne_nil x)
  simp [firstLine, entryLines_append_newline, hx]

lemma entryLines_intercalate : ∀ {E : List String}, E ≠ [] →
    entryLines ("\n".intercalate E) = E.flatMap entryLines
  | [x], _ => by simp
  | x :: y :: ys, _ => by
    rw [String.intercalate_cons_cons, entryLines_append_newline,
      entryLines_intercalate (List.cons_ne_nil y ys)]
    simp

/-- A line without its trailing carriage returns ends with none. -/
lemma dropCarriageReturns_unreturned (l : String) :
    (dropCarriageReturns l).toList.getLast? ≠ some '\r' := by
  have hhead := List.head?_dropWhile_not (· = '\r') l.toList.reverse
  rw [dropCarriageReturns, String.toList_ofList, List.getLast?_reverse]
  intro h
  rw [h] at hhead
  simp at hhead

lemma dropCarriageReturns_of_unreturned {l : String} (h : l.toList.getLast? ≠ some '\r') :
    dropCarriageReturns l = l := by
  rw [dropCarriageReturns]
  cases hrev : l.toList.reverse with
  | nil => simp [← String.toList_inj, ← List.reverse_eq_nil_iff, hrev]
  | cons c cs =>
    have hc : c ≠ '\r' := by
      rw [← List.head?_reverse, hrev] at h
      simpa using h
    rw [List.dropWhile_cons_of_neg (by simpa using hc), ← hrev, List.reverse_reverse,
      String.ofList_toList]

lemma newline_not_mem_dropCarriageReturns {l : String} (h : '\n' ∉ l.toList) :
    '\n' ∉ (dropCarriageReturns l).toList := by
  rw [dropCarriageReturns, String.toList_ofList, List.mem_reverse]
  exact fun hmem => h (List.mem_reverse.1 ((List.dropWhile_suffix _).subset hmem))

/-- Every line of an output is free of line feeds and ends with no carriage return. -/
lemma mem_lines {output l : String} (h : l ∈ lines output) :
    '\n' ∉ l.toList ∧ l.toList.getLast? ≠ some '\r' := by
  obtain ⟨raw, hraw, rfl⟩ := List.mem_map.1 h
  exact ⟨newline_not_mem_dropCarriageReturns (newline_not_mem_of_mem_entryLines hraw),
    dropCarriageReturns_unreturned raw⟩

/-- The lines of entries joined by line feeds, none of them ending with a carriage return, are
the lines of each entry in turn. -/
lemma lines_intercalate {E : List String} (hE : E ≠ [])
    (hr : ∀ x ∈ E, ∀ l ∈ entryLines x, l.toList.getLast? ≠ some '\r') :
    lines ("\n".intercalate E) = E.flatMap entryLines := by
  have hsplit : Text.splitOnChar ("\n".intercalate E) '\n' = E.flatMap entryLines :=
    entryLines_intercalate hE
  rw [lines, hsplit, List.map_congr_left fun l hl => ?_, List.map_id']
  obtain ⟨x, hx, hl⟩ := List.mem_flatMap.1 hl
  exact dropCarriageReturns_of_unreturned (hr x hx l hl)

end Lines

section Step

variable {noise : List String} {wantAuto : Bool}

lemma startsEntry_iff {l : String} :
    startsEntry noise wantAuto l = true ↔ Text.strip l ≠ "" ∧
      (∀ p ∈ noise, Text.startsWith l p = false) ∧
      (wantAuto = false → Text.startsWith l autogenerated = false) := by
  cases wantAuto <;> simp [startsEntry, hasPrefix, and_comm]

/-- What one line does to the entries found so far: it continues the latest entry, starts an
entry of its own, or is dropped. -/
lemma step_cases (acc : List String) (l : String) :
    (∃ last earlier, acc = last :: earlier ∧ Text.startsWith l "\t" = true ∧
      step noise wantAuto acc l = (last ++ "\n" ++ l) :: earlier) ∨
    ((acc = [] ∨ Text.startsWith l "\t" = false) ∧ startsEntry noise wantAuto l = true ∧
      step noise wantAuto acc l = l :: acc) ∨
    step noise wantAuto acc l = acc := by
  cases acc with
  | nil =>
    cases hs : startsEntry noise wantAuto l
    · exact .inr (.inr (by simp [step, hs]))
    · exact .inr (.inl ⟨.inl rfl, rfl, by simp [step, hs]⟩)
  | cons last earlier =>
    cases ht : Text.startsWith l "\t"
    · cases hs : startsEntry noise wantAuto l
      · exact .inr (.inr (by simp [step, ht, hs]))
      · exact .inr (.inl ⟨.inr rfl, rfl, by simp [step, ht, hs]⟩)
    · exact .inl ⟨last, earlier, rfl, rfl, by simp [step, ht]⟩

lemma Shaped.single {l : String} (hs : startsEntry noise wantAuto l = true)
    (hn : '\n' ∉ l.toList) (hr : l.toList.getLast? ≠ some '\r') : Shaped noise wantAuto l := by
  have hlines : entryLines l = [l] := entryLines_of_newline_free hn
  have hfirst : firstLine l = l := by simp [firstLine, hlines]
  obtain ⟨hblank, hquiet, hgen⟩ := startsEntry_iff.1 hs
  refine ⟨?_, ?_, ?_, ?_, ?_⟩
  · rw [hfirst]
    exact hblank
  · rw [hfirst]
    exact hquiet
  · rw [hfirst]
    exact hgen
  · simp [hlines]
  · simpa [hlines] using hr

lemma Shaped.continue {x l : String} (hx : Shaped noise wantAuto x)
    (ht : Text.startsWith l "\t" = true) (hn : '\n' ∉ l.toList)
    (hr : l.toList.getLast? ≠ some '\r') : Shaped noise wantAuto (x ++ "\n" ++ l) := by
  have hlines : entryLines (x ++ "\n" ++ l) = entryLines x ++ [l] := by
    rw [entryLines_append_newline, entryLines_of_newline_free hn]
  obtain ⟨first, rest, hx'⟩ := List.exists_cons_of_ne_nil (entryLines_ne_nil x)
  refine ⟨?_, ?_, ?_, fun l' hl' => ?_, fun l' hl' => ?_⟩
  · rw [firstLine_append_newline]
    exact hx.nonblank
  · rw [firstLine_append_newline]
    exact hx.quiet
  · rw [firstLine_append_newline]
    exact hx.generated
  · rw [hlines, hx', List.cons_append, List.tail_cons, List.mem_append] at hl'
    rcases hl' with hl' | hl'
    · exact hx.continued l' (by simpa [hx'] using hl')
    · rw [List.mem_singleton.1 hl']
      exact ht
  · rw [hlines, List.mem_append] at hl'
    rcases hl' with hl' | hl'
    · exact hx.unreturned l' hl'
    · rw [List.mem_singleton.1 hl']
      exact hr

lemma Shaped.ne_empty {x : String} (hx : Shaped noise wantAuto x) : x ≠ "" := by
  rintro rfl
  exact hx.nonblank rfl

end Step

section Fold

variable {noise : List String} {wantAuto : Bool}

/-- What the fold keeps of the entries found so far, the latest first: each is shaped, and all
but the earliest have a first line without a tab. -/
structure Found (noise : List String) (wantAuto : Bool) (acc : List String) : Prop where
  shaped : ∀ x ∈ acc, Shaped noise wantAuto x
  untabbed : ∀ x ∈ acc.dropLast, Text.startsWith (firstLine x) "\t" = false

lemma Found.step {acc : List String} {l : String} (h : Found noise wantAuto acc)
    (hn : '\n' ∉ l.toList) (hr : l.toList.getLast? ≠ some '\r') :
    Found noise wantAuto (Output.step noise wantAuto acc l) := by
  rcases @step_cases noise wantAuto acc l with
    ⟨last, earlier, rfl, ht, hstep⟩ | ⟨hfirst, hs, hstep⟩ | hstep
  · -- the latest entry grows by a line; its first line, and so the other entries, stay
    rw [hstep]
    have hlast : Shaped noise wantAuto (last ++ "\n" ++ l) :=
      (h.shaped last List.mem_cons_self).continue ht hn hr
    refine ⟨fun x hx => ?_, fun x hx => ?_⟩
    · rcases List.mem_cons.1 hx with rfl | hx
      · exact hlast
      · exact h.shaped x (List.mem_cons_of_mem _ hx)
    · by_cases he : earlier = []
      · simp [he] at hx
      · rw [List.dropLast_cons_of_ne_nil he] at hx
        rcases List.mem_cons.1 hx with rfl | hx
        · rw [firstLine_append_newline]
          exact h.untabbed last (by simp [List.dropLast_cons_of_ne_nil he])
        · exact h.untabbed x (by simp [List.dropLast_cons_of_ne_nil he, hx])
  · -- a new entry starts; it has a tab only when it is the first entry
    rw [hstep]
    have hnew : Shaped noise wantAuto l := Shaped.single hs hn hr
    refine ⟨fun x hx => ?_, fun x hx => ?_⟩
    · rcases List.mem_cons.1 hx with rfl | hx
      · exact hnew
      · exact h.shaped x hx
    · rcases hfirst with rfl | ht
      · simp at hx
      · cases acc with
        | nil => simp at hx
        | cons last earlier =>
          rw [List.dropLast_cons_of_ne_nil (List.cons_ne_nil last earlier)] at hx
          rcases List.mem_cons.1 hx with rfl | hx
          · simpa [firstLine, entryLines_of_newline_free hn] using ht
          · exact h.untabbed x hx
  · rw [hstep]
    exact h

/-- Folding lines free of line feeds and of trailing carriage returns keeps the shape of the
entries found. -/
lemma Found.foldl {acc : List String} {ls : List String} (h : Found noise wantAuto acc)
    (hls : ∀ l ∈ ls, '\n' ∉ l.toList ∧ l.toList.getLast? ≠ some '\r') :
    Found noise wantAuto (ls.foldl (Output.step noise wantAuto) acc) := by
  induction ls generalizing acc with
  | nil => exact h
  | cons l ls ih =>
    obtain ⟨hn, hr⟩ := hls l List.mem_cons_self
    exact ih (h.step hn hr) fun l' hl' => hls l' (List.mem_cons_of_mem _ hl')

/-- The entries of an output are shaped, and all but the first have a first line without a
tab. -/
theorem entries_shaped (output : String) (wantAuto : Bool) (prefixes : NoisePrefixes) :
    (∀ x ∈ entries output wantAuto prefixes,
      Shaped (prefixes.banner ++ prefixes.comment) wantAuto x) ∧
    ∀ x ∈ (entries output wantAuto prefixes).tail, Text.startsWith (firstLine x) "\t" = false := by
  have hfound : Found (prefixes.banner ++ prefixes.comment) wantAuto
      ((lines output).foldl (step (prefixes.banner ++ prefixes.comment) wantAuto) []) :=
    Found.foldl ⟨by simp, by simp⟩ fun l hl => mem_lines hl
  refine ⟨fun x hx => hfound.shaped x ?_, fun x hx => hfound.untabbed x ?_⟩
  · simpa [entries] using hx
  · simpa [entries, List.tail_reverse] using hx

end Fold

section Regroup

variable {noise : List String} {wantAuto : Bool}

lemma foldl_step_continued {rest : List String} (hrest : ∀ l ∈ rest, Text.startsWith l "\t" = true)
    (cur : String) (acc : List String) :
    rest.foldl (step noise wantAuto) (cur :: acc) = "\n".intercalate (cur :: rest) :: acc := by
  induction rest generalizing cur with
  | nil => simp
  | cons l rest ih =>
    have ht : Text.startsWith l "\t" = true := hrest l List.mem_cons_self
    rw [List.foldl_cons, show step noise wantAuto (cur :: acc) l = (cur ++ "\n" ++ l) :: acc by
      simp [step, ht], ih fun l' hl' => hrest l' (List.mem_cons_of_mem _ hl')]
    simp [String.append_assoc]

/-- The fold takes the lines of a shaped entry as that one entry, provided its first line has no
tab when entries were found before it. -/
lemma foldl_step_entryLines {x : String} {acc : List String} (hx : Shaped noise wantAuto x)
    (hlead : acc ≠ [] → Text.startsWith (firstLine x) "\t" = false) :
    (entryLines x).foldl (step noise wantAuto) acc = x :: acc := by
  obtain ⟨first, rest, hlines⟩ := List.exists_cons_of_ne_nil (entryLines_ne_nil x)
  have hfirst : firstLine x = first := by simp [firstLine, hlines]
  have hs : startsEntry noise wantAuto first = true :=
    startsEntry_iff.2 ⟨hfirst ▸ hx.nonblank, hfirst ▸ hx.quiet, hfirst ▸ hx.generated⟩
  have hstart : step noise wantAuto acc first = first :: acc := by
    cases acc with
    | nil => simp [step, hs]
    | cons last earlier =>
      have ht : Text.startsWith first "\t" = false := hfirst ▸ hlead (List.cons_ne_nil _ _)
      simp [step, ht, hs]
  have hrest : ∀ l ∈ rest, Text.startsWith l "\t" = true := fun l hl =>
    hx.continued l (by simp [hlines, hl])
  rw [hlines, List.foldl_cons, hstart, foldl_step_continued hrest, ← hlines,
    intercalate_entryLines]

/-- The fold takes the lines of shaped entries, all but the first without a tab in front, as
those entries. -/
lemma foldl_step_flatMap : ∀ {E acc : List String}, (∀ x ∈ E, Shaped noise wantAuto x) →
    (∀ x ∈ E.tail, Text.startsWith (firstLine x) "\t" = false) →
    (acc ≠ [] → ∀ x ∈ E.head?, Text.startsWith (firstLine x) "\t" = false) →
    (E.flatMap entryLines).foldl (step noise wantAuto) acc = E.reverse ++ acc
  | [], _, _, _, _ => by simp
  | x :: xs, acc, hshaped, htail, hhead => by
    rw [List.flatMap_cons, List.foldl_append,
      foldl_step_entryLines (hshaped x List.mem_cons_self) fun hne => hhead hne x rfl,
      foldl_step_flatMap (fun y hy => hshaped y (List.mem_cons_of_mem _ hy))
        (fun y hy => htail y (List.mem_of_mem_tail hy))
        (fun _ y hy => htail y (List.mem_of_mem_head? hy))]
    simp

/-- Joining shaped entries, all but the first without a tab in front, by line feeds and
splitting again gives them back. -/
theorem entries_intercalate {E : List String} (prefixes : NoisePrefixes)
    (hshaped : ∀ x ∈ E, Shaped (prefixes.banner ++ prefixes.comment) wantAuto x)
    (htail : ∀ x ∈ E.tail, Text.startsWith (firstLine x) "\t" = false) :
    entries ("\n".intercalate E) wantAuto prefixes = E := by
  cases E with
  | nil => simp [entries, lines, Text.splitOnChar, dropCarriageReturns, step, startsEntry,
      Text.strip, Text.stripChars]
  | cons x xs =>
    have hr : ∀ y ∈ x :: xs, ∀ l ∈ entryLines y, l.toList.getLast? ≠ some '\r' :=
      fun y hy => (hshaped y hy).unreturned
    rw [entries, lines_intercalate (List.cons_ne_nil x xs) hr,
      foldl_step_flatMap hshaped htail (fun h => absurd rfl h)]
    simp

end Regroup

/-- The entries of any output, for any noise prefixes, are non-empty and shaped: the first line of
each is not blank, has no noise prefix and, unless generated code is wanted, is not from generated
code, and only the first entry's may start with a tab; every other line starts with a tab; no
line ends with a carriage return. Splitting the entries joined by line feeds gives them back. -/
theorem entries_shaped_and_resplit (output : String) (wantAuto : Bool) (prefixes : NoisePrefixes) :
    (∀ x ∈ entries output wantAuto prefixes,
      x ≠ "" ∧ Shaped (prefixes.banner ++ prefixes.comment) wantAuto x) ∧
    (∀ x ∈ (entries output wantAuto prefixes).tail,
      Text.startsWith (firstLine x) "\t" = false) ∧
    entries ("\n".intercalate (entries output wantAuto prefixes)) wantAuto prefixes =
      entries output wantAuto prefixes := by
  obtain ⟨hshaped, htail⟩ := entries_shaped output wantAuto prefixes
  exact ⟨fun x hx => ⟨(hshaped x hx).ne_empty, hshaped x hx⟩, htail,
    entries_intercalate prefixes hshaped htail⟩

example : entries "x.go:1: a\r\n# note\n\tmore\r\r\n\n" false {} = ["x.go:1: a\n\tmore"] := by
  decide

end DiagnosticCheck.Output
