import DiagnosticCheck.Proofs.Completeness
import Mathlib

/-!
# The parts of an entry

An entry `place: text(checker)` is read the way a backtracking match of its shape reads it: a
place of at least one character without blanks, a colon and a space, a text on one line, and a
non-empty checker name without blanks in parentheses at the end. Where the entry splits so in
several ways, the match takes the shortest place and, for it, the longest text: the checker is
what follows the last `(` that leaves a name, and it may hold a `)`. An entry that does not split
so, and in particular every entry of several lines, has no parts (`decompose_eq_preferred`).

Since the place holds no blank and the space after its colon is one, the place of a splitting is
fixed by the entry: it runs up to the entry's first blank. What remains is to choose the `(`; the
longest text is the one whose checker holds no `(` but for its last character, and that is the
splitting the reader finds.

The place of an entry decides where it is reported: behind a directory part, an entry
`file:line:rest` is reported at `file':line'` exactly when the files and the lines are equal, and
an entry `file:rest` at a place without `:` exactly when the file is that place
(`reportedAt_iff_file_and_line`).
-/

namespace DiagnosticCheck

open scoped List

namespace Entry

/-- The characters after `place: ` split as a text, `(`, a checker name and `)`, the name
non-empty and free of blanks. -/
structure CheckerSplit (after text checker : List Char) : Prop where
  eq : after = text ++ '(' :: checker ++ [')']
  checker_ne : checker ≠ []
  checker_word : ∀ c ∈ checker, isWordChar c = true

section Checker

variable {after text checker : List Char}

/-- A `(` inside the name that leaves a name after it splits the characters again, with a longer
text and a shorter name. -/
lemma CheckerSplit.resplit {front back : List Char}
    (h : CheckerSplit after text (front ++ '(' :: back)) (hback : back ≠ []) :
    CheckerSplit after (text ++ '(' :: front) back := by
  refine ⟨by rw [h.eq]; simp, hback, fun c hc => h.checker_word c (by simp [hc])⟩

/-- A name with a `(` but for its last character is a front, a `(` and a non-empty back. -/
lemma exists_paren_of_mem_dropLast {checker : List Char} (h : '(' ∈ checker.dropLast) :
    ∃ front back, checker = front ++ '(' :: back ∧ back ≠ [] := by
  obtain ⟨front, back, hfront⟩ := List.append_of_mem h
  have hne : checker ≠ [] := by
    rintro rfl
    simp at h
  refine ⟨front, back ++ [checker.getLast hne], ?_, by simp⟩
  calc checker = checker.dropLast ++ [checker.getLast hne] :=
        (List.dropLast_append_getLast hne).symm
    _ = front ++ '(' :: (back ++ [checker.getLast hne]) := by rw [hfront]; simp

/-- Of the splittings of some characters there is one whose name holds no `(` but for its last
character. The induction is on the length of the name, which every further split shortens. -/
lemma CheckerSplit.exists_lastParen (h : CheckerSplit after text checker) :
    ∃ text₀ checker₀, CheckerSplit after text₀ checker₀ ∧ '(' ∉ checker₀.dropLast := by
  induction hn : checker.length using Nat.strong_induction_on generalizing text checker with
  | _ n ih =>
    by_cases hparen : '(' ∈ checker.dropLast
    · obtain ⟨front, back, rfl, hback⟩ := exists_paren_of_mem_dropLast hparen
      have hshorter : back.length < n := by
        rw [← hn]
        simp only [List.length_append, List.length_cons]
        omega
      exact ih _ hshorter (h.resplit hback) rfl
    · exact ⟨text, checker, h, hparen⟩

/-- A splitting has the longest text of all exactly when its name holds no `(` but for its last
character. -/
lemma CheckerSplit.longest_iff (h : CheckerSplit after text checker) :
    (∀ text' checker', CheckerSplit after text' checker' → text'.length ≤ text.length) ↔
      '(' ∉ checker.dropLast := by
  constructor
  · intro hlongest hparen
    obtain ⟨front, back, rfl, hback⟩ := exists_paren_of_mem_dropLast hparen
    have hle := hlongest _ _ (h.resplit hback)
    simp at hle
  · intro hparen text' checker' h'
    by_contra hlt
    rw [not_le] at hlt
    have heq := h.eq.symm.trans h'.eq
    simp only [List.append_assoc, List.cons_append] at heq
    -- the longer text runs past the first text's `(` into its name
    rcases List.append_eq_append_iff.1 heq with ⟨mid, rfl, hmid⟩ | ⟨mid, rfl, -⟩
    · cases mid with
      | nil => simp at hlt
      | cons c mid =>
        simp only [List.cons_append, List.cons.injEq] at hmid
        obtain ⟨-, hname⟩ := hmid
        have hchecker : checker = mid ++ '(' :: checker' :=
          List.append_cancel_right (hname.trans (by simp))
        apply hparen
        rw [hchecker, List.dropLast_append_of_ne_nil (List.cons_ne_nil _ _),
          List.dropLast_cons_of_ne_nil h'.checker_ne]
        simp
    · simp at hlt

lemma exists_checkerSplit_of_splitChecker {r : List Char × List Char}
    (h : splitChecker after = some r) : ∃ text checker, CheckerSplit after text checker := by
  unfold splitChecker at h
  split at h
  next hlast =>
    obtain ⟨body, rfl⟩ := List.getLast?_eq_some_iff.1 hlast
    simp only [List.dropLast_concat] at h
    split at h
    next => cases h
    next last earlier hrun =>
      split at h
      next => cases h
      next i hidx =>
        -- the run of word characters at the end of the body holds a `(`
        have hmem : '(' ∈ earlier := by
          by_contra hnot
          rw [List.idxOf?_eq_none_iff.2 hnot] at hidx
          cases hidx
        obtain ⟨front, back, rfl⟩ := List.append_of_mem hmem
        have hword : ∀ c ∈ last :: (front ++ '(' :: back), isWordChar c = true := fun c hc =>
          List.mem_takeWhile_imp (hrun ▸ hc)
        obtain ⟨rest, hrest⟩ : last :: (front ++ '(' :: back) <+: body.reverse :=
          hrun ▸ List.takeWhile_prefix _
        refine ⟨rest.reverse ++ back.reverse, front.reverse ++ [last], ⟨?_, by simp, ?_⟩⟩
        · rw [← List.reverse_reverse body, ← hrest]
          simp
        · intro c hc
          apply hword
          simp only [List.mem_append, List.mem_reverse, List.mem_singleton] at hc
          simp only [List.mem_cons, List.mem_append]
          tauto
  next => cases h

/-- The reader splits off a checker exactly as the splitting with the longest text. -/
theorem splitChecker_eq_some_iff :
    splitChecker after = some (text, checker) ↔
      CheckerSplit after text checker ∧
        ∀ text' checker', CheckerSplit after text' checker' → text'.length ≤ text.length := by
  constructor
  · intro h
    obtain ⟨text₁, checker₁, h₁⟩ := exists_checkerSplit_of_splitChecker h
    obtain ⟨text₀, checker₀, h₀, hparen⟩ := h₁.exists_lastParen
    have hread : splitChecker after = some (text₀, checker₀) := by
      rw [h₀.eq]
      exact splitChecker_lastParen h₀.checker_ne h₀.checker_word hparen
    obtain ⟨rfl, rfl⟩ := Prod.mk.inj (Option.some.inj (h.symm.trans hread))
    exact ⟨h₀, h₀.longest_iff.2 hparen⟩
  · rintro ⟨h, hlongest⟩
    rw [h.eq]
    exact splitChecker_lastParen h.checker_ne h.checker_word (h.longest_iff.1 hlongest)

lemma CheckerSplit.exists_splitChecker (h : CheckerSplit after text checker) :
    ∃ text₀ checker₀, splitChecker after = some (text₀, checker₀) := by
  obtain ⟨text₀, checker₀, h₀, hparen⟩ := h.exists_lastParen
  exact ⟨text₀, checker₀, splitChecker_eq_some_iff.2 ⟨h₀, h₀.longest_iff.2 hparen⟩⟩

/-- The reader splits off no checker exactly when the characters do not split at all. -/
lemma splitChecker_eq_none_iff :
    splitChecker after = none ↔ ∀ text checker, ¬ CheckerSplit after text checker := by
  constructor
  · intro h text checker hsplit
    obtain ⟨text₀, checker₀, hread⟩ := hsplit.exists_splitChecker
    rw [h] at hread
    cases hread
  · intro hnone
    cases h : splitChecker after with
    | none => rfl
    | some r =>
      obtain ⟨text, checker, hsplit⟩ := exists_checkerSplit_of_splitChecker h
      exact absurd hsplit (hnone text checker)

end Checker

/-- An entry `place: text(checker)`: the place and the checker name non-empty and free of blanks,
the text on one line. -/
structure Splitting (x : String) (place text checker : List Char) : Prop where
  eq : x.toList = place ++ ':' :: ' ' :: (text ++ '(' :: checker ++ [')'])
  place_ne : place ≠ []
  place_word : ∀ c ∈ place, isWordChar c = true
  checker_ne : checker ≠ []
  checker_word : ∀ c ∈ checker, isWordChar c = true
  text_line : '\n' ∉ text

/-- The splitting a backtracking match finds first: no splitting has a shorter place, and none
with a place as long has a longer text. -/
def Preferred (x : String) (place text checker : List Char) : Prop :=
  Splitting x place text checker ∧ ∀ place' text' checker', Splitting x place' text' checker' →
    place.length < place'.length ∨ place.length = place'.length ∧ text'.length ≤ text.length

section Splitting

variable {x : String} {place text checker : List Char}

lemma Splitting.checkerSplit (h : Splitting x place text checker) :
    CheckerSplit (text ++ '(' :: checker ++ [')']) text checker :=
  ⟨rfl, h.checker_ne, h.checker_word⟩

/-- The place of a splitting and its colon are the entry's run of word characters, which the space
after them ends. -/
lemma Splitting.span (h : Splitting x place text checker) :
    x.toList.span isWordChar = (place ++ [':'], ' ' :: (text ++ '(' :: checker ++ [')'])) := by
  have hword : ∀ c ∈ place ++ [':'], isWordChar c = true := by
    intro c hc
    rcases List.mem_append.1 hc with hc | hc
    · exact h.place_word c hc
    · rw [List.mem_singleton.1 hc]
      decide
  have hx : x.toList = (place ++ [':']) ++ ' ' :: (text ++ '(' :: checker ++ [')']) := by
    rw [h.eq]
    simp
  rw [hx, List.span_eq_takeWhile_dropWhile, List.takeWhile_append_of_pos hword,
    List.dropWhile_append_of_pos hword, List.takeWhile_cons_of_neg (by decide),
    List.dropWhile_cons_of_neg (by decide), List.append_nil]

lemma Splitting.newline_not_mem (h : Splitting x place text checker) : '\n' ∉ x.toList := by
  have hnl : isWordChar '\n' = false := by decide
  have hplace : '\n' ∉ place := fun hp => by simpa [hnl] using h.place_word _ hp
  have hchecker : '\n' ∉ checker := fun hc => by simpa [hnl] using h.checker_word _ hc
  rw [h.eq]
  simp [hplace, hchecker, h.text_line]

lemma Splitting.place_eq {place' text' checker' : List Char} (h : Splitting x place text checker)
    (h' : Splitting x place' text' checker') :
    place = place' ∧ text ++ '(' :: checker ++ [')'] = text' ++ '(' :: checker' ++ [')'] := by
  obtain ⟨hplace, hafter⟩ := Prod.mk.inj (h.span.symm.trans h'.span)
  exact ⟨List.append_cancel_right hplace, (List.cons.inj hafter).2⟩

lemma Splitting.of_checkerSplit {text' checker' : List Char} (h : Splitting x place text checker)
    (h' : CheckerSplit (text ++ '(' :: checker ++ [')']) text' checker') :
    Splitting x place text' checker' := by
  have hafter : text ++ '(' :: checker ++ [')'] = text' ++ '(' :: checker' ++ [')'] := h'.eq
  refine ⟨by rw [h.eq, hafter], h.place_ne, h.place_word, h'.checker_ne, h'.checker_word, ?_⟩
  intro hline
  apply h.newline_not_mem
  rw [h.eq, hafter]
  simp [hline]

/-- A splitting of an entry decomposes it as the reader splits off a checker from what follows
its place. -/
lemma decompose_of_splitting (h : Splitting x place text checker) {text₀ checker₀ : List Char}
    (hread : splitChecker (text ++ '(' :: checker ++ [')']) = some (text₀, checker₀)) :
    decompose x = some (String.ofList text₀, String.ofList checker₀) := by
  have hlen : 2 ≤ (place ++ [':']).length := by
    have := List.length_pos_iff.2 h.place_ne
    simp
    omega
  unfold decompose
  simp only [List.contains_iff_mem, h.newline_not_mem, if_false, h.span, hlen,
    List.getLast?_concat, and_self, if_true, hread, Option.map_some]

/-- A decomposed entry splits with the parts found, and the reader finds that checker in what
follows the place. -/
lemma exists_splitting_of_decompose {text checker : String}
    (h : decompose x = some (text, checker)) :
    ∃ place, Splitting x place text.toList checker.toList ∧
      splitChecker (text.toList ++ '(' :: checker.toList ++ [')']) =
        some (text.toList, checker.toList) := by
  unfold decompose at h
  dsimp only at h
  split at h
  next => cases h
  next hline =>
    split at h
    next place after hspan =>
      split at h
      next hplace =>
        obtain ⟨⟨text₀, checker₀⟩, hread, hparts⟩ := Option.map_eq_some_iff.1 h
        simp only [Prod.mk.injEq] at hparts
        obtain ⟨rfl, rfl⟩ := hparts
        simp only [String.toList_ofList]
        obtain ⟨hsplit, -⟩ := splitChecker_eq_some_iff.1 hread
        obtain ⟨front, rfl⟩ := List.getLast?_eq_some_iff.1 hplace.2
        rw [List.span_eq_takeWhile_dropWhile, Prod.mk.injEq] at hspan
        have hx : x.toList = (front ++ [':']) ++ ' ' :: after := by
          rw [← hspan.1, ← hspan.2, List.takeWhile_append_dropWhile]
        have hword : ∀ c ∈ front ++ [':'], isWordChar c = true := fun c hc =>
          List.mem_takeWhile_imp (hspan.1 ▸ hc)
        refine ⟨front, ⟨?_, ?_, fun c hc => hword c (List.mem_append_left _ hc),
          hsplit.checker_ne, hsplit.checker_word, fun hnl => hline ?_⟩, ?_⟩
        · rw [hx, hsplit.eq]
          simp
        · rintro rfl
          simp at hplace
        · rw [List.contains_iff_mem, hx, hsplit.eq]
          simp [hnl]
        · simpa [hsplit.eq] using hread
      next => cases h
    next => cases h

end Splitting

/-- An entry decomposes into a text and a checker exactly when it splits as `place: text(checker)`
with that text and checker, taking the shortest place and, for it, the longest text; it has no
parts exactly when it does not split so; and an entry of several lines never has parts. -/
theorem decompose_eq_preferred (x : String) :
    (∀ text checker : String, decompose x = some (text, checker) ↔
      ∃ place, Preferred x place text.toList checker.toList) ∧
    (decompose x = none ↔ ∀ place text checker, ¬ Splitting x place text checker) ∧
    ('\n' ∈ x.toList → decompose x = none) := by
  refine ⟨fun text checker => ⟨fun h => ?_, fun h => ?_⟩, ⟨fun h => ?_, fun h => ?_⟩, fun h => ?_⟩
  · obtain ⟨place, hsplit, hread⟩ := exists_splitting_of_decompose h
    refine ⟨place, hsplit, fun place' text' checker' h' => .inr ?_⟩
    obtain ⟨rfl, hafter⟩ := hsplit.place_eq h'
    refine ⟨rfl, (splitChecker_eq_some_iff.1 hread).2 text' checker' ?_⟩
    exact ⟨hafter.trans h'.checkerSplit.eq, h'.checker_ne, h'.checker_word⟩
  · obtain ⟨place, hsplit, hfirst⟩ := h
    have hread : splitChecker (text.toList ++ '(' :: checker.toList ++ [')']) =
        some (text.toList, checker.toList) := by
      refine splitChecker_eq_some_iff.2 ⟨hsplit.checkerSplit, fun text' checker' h' => ?_⟩
      rcases hfirst place text' checker' (hsplit.of_checkerSplit h') with hlt | ⟨-, hle⟩
      · exact absurd hlt (lt_irrefl _)
      · exact hle
    simpa using decompose_of_splitting hsplit hread
  · intro place text checker hsplit
    obtain ⟨text₀, checker₀, hread⟩ := hsplit.checkerSplit.exists_splitChecker
    rw [decompose_of_splitting hsplit hread] at h
    cases h
  · cases hx : decompose x with
    | none => rfl
    | some parts =>
      obtain ⟨place, hsplit, -⟩ := exists_splitting_of_decompose hx
      exact absurd hsplit (h place _ _)
  · simp [decompose, h]

/-- An entry continued on a second line has no parts, though its first line alone would. -/
theorem decompose_multiline_entry :
    '\n' ∈ "x.go:3: undefined: y (vet)\n\tmore".toList ∧
      decompose "x.go:3: undefined: y (vet)\n\tmore" = none :=
  ⟨by decide, (decompose_eq_preferred _).2.2 (by decide)⟩

end Entry

namespace Location

variable {dir file rest : String}

/-- Behind a directory part, empty or ending in `/` and without `:`, an entry `file:rest` whose
file holds neither `/` nor `:` is reported at a place exactly when `file:rest` starts with the
place and a colon. -/
lemma reportedAt_dir_iff (hdir : dir = "" ∨ dir.toList.getLast? = some '/')
    (hdirColon : ':' ∉ dir.toList) (hslash : '/' ∉ file.toList) (hcolon : ':' ∉ file.toList)
    (place : String) :
    reportedAt (dir ++ file ++ ":" ++ rest) place = true ↔
      place.toList ++ [':'] <+: file.toList ++ ':' :: rest.toList := by
  have hentry : (dir ++ file ++ ":" ++ rest).toList =
      (dir.toList ++ file.toList) ++ ':' :: rest.toList := by
    simp
  have hfield : ':' ∉ dir.toList ++ file.toList := by simp [hdirColon, hcolon]
  have hdir' : dir.toList = [] ∨ dir.toList.getLast? = some '/' := by simpa using hdir
  unfold reportedAt
  rw [hentry, withoutDirectory_field hfield, afterLastSlash_dir_append hdir' hslash]
  exact List.isPrefixOf_iff_prefix

/-- Behind a directory part, an entry `file:rest` is reported at a place without `:` exactly when
the file is that place. -/
lemma reportedAt_iff_file (hdir : dir = "" ∨ dir.toList.getLast? = some '/')
    (hdirColon : ':' ∉ dir.toList) (hslash : '/' ∉ file.toList) (hcolon : ':' ∉ file.toList)
    {place : String} (hplace : ':' ∉ place.toList) :
    reportedAt (dir ++ file ++ ":" ++ rest) place = true ↔ file = place := by
  rw [reportedAt_dir_iff hdir hdirColon hslash hcolon, prefix_sep_iff hplace hcolon,
    ← String.toList_inj]
  simp [eq_comm]

/-- Behind a directory part that is empty or ends in `/` and holds no `:`, an entry
`file':line':rest`, its file free of `/` and `:` and its line free of `:`, is reported at a place
`file:line` without further `:` exactly when the files and the lines are equal; so line 5 is not
line 50 or 55, and `x.go` is not `ax.go`. An entry `file':rest` is reported at a place without `:`
exactly when the file is that place. -/
theorem reportedAt_iff_file_and_line (dir file file' line line' rest : String)
    (hdir : dir = "" ∨ dir.toList.getLast? = some '/') (hdirColon : ':' ∉ dir.toList)
    (hslash : '/' ∉ file'.toList) (hcolon' : ':' ∉ file'.toList) (hcolon : ':' ∉ file.toList)
    (hline : ':' ∉ line.toList) (hline' : ':' ∉ line'.toList) :
    (reportedAt (dir ++ file' ++ ":" ++ line' ++ ":" ++ rest) (file ++ ":" ++ line) = true ↔
      file' = file ∧ line' = line) ∧
    ∀ place, ':' ∉ place.toList →
      (reportedAt (dir ++ file' ++ ":" ++ rest) place = true ↔ file' = place) := by
  refine ⟨?_, fun place hplace => reportedAt_iff_file hdir hdirColon hslash hcolon' hplace⟩
  have hentry : dir ++ file' ++ ":" ++ line' ++ ":" ++ rest =
      dir ++ file' ++ ":" ++ (line' ++ ":" ++ rest) := by
    simp [String.append_assoc]
  have hplace : (file ++ ":" ++ line).toList ++ [':'] =
      file.toList ++ ':' :: (line.toList ++ [':']) := by
    simp
  have hrest : (line' ++ ":" ++ rest).toList = line'.toList ++ ':' :: rest.toList := by
    simp
  rw [hentry, reportedAt_dir_iff hdir hdirColon hslash hcolon', hplace, hrest,
    prefix_sep_iff hcolon hcolon', prefix_sep_iff hline hline', ← String.toList_inj,
    ← String.toList_inj]
  simp [eq_comm]

/-- An entry at line 50 of `src/x.go` is reported at `x.go:50` and not at `x.go:5`. -/
theorem reportedAt_line_fifty :
    ("src/" = "" ∨ "src/".toList.getLast? = some '/') ∧ ':' ∉ "src/".toList ∧
      '/' ∉ "x.go".toList ∧ ':' ∉ "x.go".toList ∧ ':' ∉ "5".toList ∧ ':' ∉ "50".toList ∧
      (reportedAt ("src/" ++ "x.go" ++ ":" ++ "50" ++ ":" ++ " boom (vet)") ("x.go" ++ ":" ++ "5") =
          true ↔ "x.go" = "x.go" ∧ "50" = "5") := by
  have hdir : "src/" = "" ∨ "src/".toList.getLast? = some '/' := .inr (by decide)
  refine ⟨hdir, by decide, by decide, by decide, by decide, by decide, ?_⟩
  exact (reportedAt_iff_file_and_line "src/" "x.go" "x.go" "5" "50" " boom (vet)" hdir
    (by decide) (by decide) (by decide) (by decide) (by decide) (by decide)).1

end Location

end DiagnosticCheck
