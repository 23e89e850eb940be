import DiagnosticCheck.Proofs.Blocks
import Mathlib

/-!
# Output printed the canonical way passes

A tool prints a diagnostic for an expected error as `dir/file:line[:column]: text(checker)`:
a directory part before the file, perhaps a column after the line, the message text and the
checker in parentheses. When every expected error of a check is printed so, at pairwise different
places, with a file name free of `/`, `:` and blanks, a checker name free of blanks and `(`, and a
text that its pattern finds, the check passes, whatever the order of the entries. The reason is
threefold: each entry is reported at its own expected error's place and at no other, it decomposes
into exactly the text and the checker it was printed with, and each turn therefore consumes its
own entry and leaves the others for the turns after it.

A file name holding `/` falls outside this: an entry printed with it is reported at the part after
the last `/`, so it is never a candidate of its own expected error.
-/

namespace DiagnosticCheck

open scoped List
open Text.Unicode

/-- How a tool prints a diagnostic for an expected error: a directory part before the file, a
column after the line if it gives one, and the message text. -/
structure Printing where
  dir : String
  column : Option String
  text : String

namespace Printing

def columnPart (p : Printing) : List Char :=
  match p.column with
  | some col => ':' :: col.toList
  | none => []

def entry (p : Printing) (e : Expectation) : String :=
  String.ofList (p.dir.toList ++ e.place.toList ++ p.columnPart ++ ':' :: ' ' ::
    (p.text.toList ++ '(' :: e.checkerName.toList ++ [')']))

/-- A printing in the canonical form: the directory part is empty or ends with `/` and holds no
`:` and no blank, the column holds no blank, and the text is one line. -/
structure WellFormed (p : Printing) : Prop where
  dir_slash : p.dir = "" ∨ p.dir.toList.getLast? = some '/'
  dir_colon : ':' ∉ p.dir.toList
  dir_blank : ∀ c ∈ p.dir.toList, isAsciiSpace c = false
  column_blank : ∀ col ∈ p.column, ∀ c ∈ col.toList, isAsciiSpace c = false
  text_line : '\n' ∉ p.text.toList

end Printing

/-- An expected error a tool can print plainly: expected at its line, in a file whose name holds
no `/`, `:` or blank, from a named checker whose name holds no blank and no `(`. -/
structure Expectation.Plain (e : Expectation) : Prop where
  not_auto : e.auto = false
  owner_slash : '/' ∉ e.ownerFile.toList
  owner_colon : ':' ∉ e.ownerFile.toList
  owner_blank : ∀ c ∈ e.ownerFile.toList, isAsciiSpace c = false
  checker_ne : e.checkerName ≠ ""
  checker_blank : ∀ c ∈ e.checkerName.toList, isAsciiSpace c = false
  checker_paren : '(' ∉ e.checkerName.toList

section Lists

/-- Two texts that continue after a separator they do not hold: one is a prefix of the other
exactly when the parts before the separator agree and the rest is a prefix. -/
lemma prefix_sep_iff {c : Char} {a b s t : List Char} (ha : c ∉ a) (hb : c ∉ b) :
    a ++ c :: s <+: b ++ c :: t ↔ a = b ∧ s <+: t := by
  induction a generalizing b with
  | nil =>
    cases b with
    | nil => simp
    | cons y b =>
      have hy : c ≠ y := fun h => hb (h ▸ List.mem_cons_self)
      simp [hy]
  | cons x a ih =>
    have hx : x ≠ c := fun h => ha (h ▸ List.mem_cons_self)
    cases b with
    | nil => simp [hx]
    | cons y b =>
      simp only [List.cons_append, List.cons_prefix_cons, List.cons.injEq, and_assoc]
      rw [ih (fun h => ha (List.mem_cons_of_mem x h)) (fun h => hb (List.mem_cons_of_mem y h))]

end Lists

section Digits

lemma isDigit_of_mem_toString {n : Nat} {c : Char} (h : c ∈ (toString n).toList) :
    c.isDigit = true := by
  rw [Nat.toString_eq_ofList_toDigits, String.toList_ofList] at h
  exact Nat.isDigit_of_mem_toDigits (by decide) (by decide) h

lemma digit_plain {n : Nat} {c : Char} (h : c ∈ (toString n).toList) :
    isAsciiSpace c = false ∧ c ≠ ':' := by
  have hd := isDigit_of_mem_toString h
  simp only [Char.isDigit, Bool.and_eq_true, decide_eq_true_eq] at hd
  have hlo : 48 ≤ c.toNat := hd.1
  have hhi : c.toNat ≤ 57 := hd.2
  refine ⟨?_, fun hc => by subst hc; simp at hhi⟩
  simp only [isAsciiSpace, isAsciiSpaceCode, Bool.or_eq_false_iff, Bool.and_eq_false_iff,
    decide_eq_false_iff_not, beq_eq_false_iff_ne]
  omega

lemma toString_inj {m n : Nat} (h : toString m = toString n) : m = n := by
  have hdigits : Nat.toDigits 10 m = Nat.toDigits 10 n := by
    simpa [Nat.toString_eq_ofList_toDigits] using congrArg String.toList h
  calc m = Nat.ofDigitChars 10 (Nat.toDigits 10 m) 0 := Nat.ofDigitChars_ten_toDigits.symm
    _ = Nat.ofDigitChars 10 (Nat.toDigits 10 n) 0 := by rw [hdigits]
    _ = n := Nat.ofDigitChars_ten_toDigits

end Digits

namespace Entry

lemma idxOf?_append_cons {a : Char} {xs ys : List Char} (h : a ∉ xs) :
    (xs ++ a :: ys).idxOf? a = some xs.length := by
  induction xs with
  | nil => simp [List.idxOf?_cons]
  | cons x xs ih =>
    have hx : (x == a) = false := by
      rw [beq_eq_false_iff_ne]
      rintro rfl
      exact h List.mem_cons_self
    rw [List.cons_append, List.idxOf?_cons, hx, ih fun hm => h (List.mem_cons_of_mem x hm)]
    rfl

/-- The checker of a diagnostic is what follows the last `(` before the closing parenthesis that
leaves a name, so a checker name without blanks and without `(` but for its last character is read
back whole, and the text before it as it was. -/
lemma splitChecker_lastParen {text checker : List Char} (hne : checker ≠ [])
    (hword : ∀ c ∈ checker, isWordChar c = true) (hparen : '(' ∉ checker.dropLast) :
    splitChecker (text ++ '(' :: checker ++ [')']) = some (text, checker) := by
  obtain ⟨pre, last, rfl⟩ : ∃ pre last, checker = pre ++ [last] :=
    ⟨checker.dropLast, checker.getLast hne, (List.dropLast_append_getLast hne).symm⟩
  have hpre : ∀ c ∈ pre.reverse, isWordChar c = true := fun c hc =>
    hword c (List.mem_append_left _ (List.mem_reverse.1 hc))
  have hlast : isWordChar last = true := hword last (by simp)
  have hparen' : '(' ∉ pre.reverse := fun h =>
    hparen (by simpa using List.mem_reverse.1 h)
  have hrev : (text ++ '(' :: (pre ++ [last])).reverse =
      last :: (pre.reverse ++ '(' :: text.reverse) := by simp
  have hrun : (text ++ '(' :: (pre ++ [last])).reverse.takeWhile isWordChar =
      last :: (pre.reverse ++ '(' :: text.reverse.takeWhile isWordChar) := by
    rw [hrev, List.takeWhile_cons_of_pos hlast, List.takeWhile_append_of_pos hpre,
      List.takeWhile_cons_of_pos (by decide)]
  have hafter : text ++ '(' :: (pre ++ [last]) ++ [')'] =
      (text ++ '(' :: (pre ++ [last])) ++ [')'] := by simp
  unfold splitChecker
  rw [hafter, List.getLast?_concat, List.dropLast_concat]
  dsimp only
  rw [hrun]
  dsimp only
  rw [idxOf?_append_cons hparen']
  dsimp only
  have htake : (pre.reverse ++ '(' :: text.reverse.takeWhile isWordChar).take pre.reverse.length =
      pre.reverse := List.take_left
  have hlen : (text ++ '(' :: (pre ++ [last])).length - (pre.reverse.length + 2) = text.length := by
    simp
  rw [htake, hlen, List.take_left]
  simp

lemma splitChecker_printed {text checker : List Char} (hne : checker ≠ [])
    (hword : ∀ c ∈ checker, isWordChar c = true) (hparen : '(' ∉ checker) :
    splitChecker (text ++ '(' :: checker ++ [')']) = some (text, checker) :=
  splitChecker_lastParen hne hword fun h => hparen (List.dropLast_subset _ h)

/-- A one-line entry whose place runs up to its first blank and ends with a colon decomposes into
the text and the checker it was written with. -/
lemma decompose_of_parts {place text checker : List Char}
    (hplace : ∀ c ∈ place, isWordChar c = true)
    (hcolon : place.getLast? = some ':') (hlen : 2 ≤ place.length) (hline : '\n' ∉ text)
    (hne : checker ≠ []) (hword : ∀ c ∈ checker, isWordChar c = true) (hparen : '(' ∉ checker) :
    decompose (String.ofList (place ++ ' ' :: (text ++ '(' :: checker ++ [')']))) =
      some (String.ofList text, String.ofList checker) := by
  have hnl : '\n' ∉ place ++ ' ' :: (text ++ '(' :: checker ++ [')']) := by
    simp only [List.mem_append, List.mem_cons, List.not_mem_nil, or_false, not_or]
    refine ⟨fun h => ?_, by decide, ⟨hline, by decide, fun h => ?_⟩, by decide⟩
    · exact absurd (hplace _ h) (by decide)
    · exact absurd (hword _ h) (by decide)
  have hspan : (place ++ ' ' :: (text ++ '(' :: checker ++ [')'])).span isWordChar =
      (place, ' ' :: (text ++ '(' :: checker ++ [')'])) := by
    rw [List.span_eq_takeWhile_dropWhile, List.takeWhile_append_of_pos hplace,
      List.dropWhile_append_of_pos hplace, List.takeWhile_cons_of_neg (by decide),
      List.dropWhile_cons_of_neg (by decide), List.append_nil]
  unfold decompose
  simp only [String.toList_ofList, List.contains_iff_mem, hnl, if_false, hspan, hlen, hcolon,
    and_self, if_true, splitChecker_printed hne hword hparen, Option.map_some]

end Entry

namespace Location

lemma withoutDirectory_field {field rest : List Char} (hfield : ':' ∉ field) :
    withoutDirectory (field ++ ':' :: rest) = some (afterLastSlash field ++ ':' :: rest) := by
  have hne : ∀ c ∈ field, decide (c ≠ ':') = true := fun c hc => by
    simpa using fun h : c = ':' => hfield (h ▸ hc)
  unfold withoutDirectory
  rw [if_pos (by simp), List.takeWhile_append_of_pos hne, List.dropWhile_append_of_pos hne,
    List.takeWhile_cons_of_neg (by simp), List.dropWhile_cons_of_neg (by simp), List.append_nil]

lemma slash_not_mem_afterLastSlash (cs : List Char) : '/' ∉ afterLastSlash cs := by
  intro h
  have := List.mem_takeWhile_imp (List.mem_reverse.1 h)
  simp at this

lemma afterLastSlash_suffix (cs : List Char) : afterLastSlash cs <:+ cs := by
  have h : cs.reverse.takeWhile (· ≠ '/') <+: cs.reverse := List.takeWhile_prefix _
  simpa [afterLastSlash] using h.reverse

/-- A file name after a directory part that is empty or ends with `/` is what remains once the
directory is dropped, as long as the name holds no `/`. -/
lemma afterLastSlash_dir_append {dir name : List Char} (hdir : dir = [] ∨ dir.getLast? = some '/')
    (hname : '/' ∉ name) : afterLastSlash (dir ++ name) = name := by
  have hne : ∀ c ∈ name.reverse, decide (c ≠ '/') = true := fun c hc => by
    simpa using fun h : c = '/' => hname (h ▸ List.mem_reverse.1 hc)
  have hdir' : dir.reverse.takeWhile (· ≠ '/') = [] := by
    rcases hdir with rfl | hlast
    · rfl
    · obtain ⟨ys, rfl⟩ := List.getLast?_eq_some_iff.1 hlast
      simp
  unfold afterLastSlash
  rw [List.reverse_append, List.takeWhile_append_of_pos hne, hdir', List.append_nil,
    List.reverse_reverse]

/-- Once a name holds a `/`, what precedes it no longer counts. -/
lemma afterLastSlash_append_of_slash {dir name : List Char} (hname : '/' ∈ name) :
    afterLastSlash (dir ++ name) = afterLastSlash name := by
  unfold afterLastSlash
  rw [List.reverse_append, List.takeWhile_append]
  have hstop : (name.reverse.takeWhile (· ≠ '/')).length ≠ name.reverse.length := by
    intro hlen
    have hpre : name.reverse.takeWhile (· ≠ '/') <+: name.reverse := List.takeWhile_prefix _
    have heq := hpre.eq_of_length hlen
    have hmem : '/' ∈ name.reverse.takeWhile (· ≠ '/') := by
      rw [heq]
      exact List.mem_reverse.2 hname
    simpa using List.mem_takeWhile_imp hmem
  rw [if_neg hstop]

end Location

namespace Printing

variable {p : Printing} {e : Expectation}

lemma place_toList (e : Expectation) :
    e.place.toList = e.ownerFile.toList ++ ':' :: (toString e.sourceLine).toList := by
  simp [Expectation.place]

/-- The characters of a printed entry: the directory, the file and a colon, then the rest of the
place and the message. -/
lemma entry_toList (p : Printing) (e : Expectation) :
    (p.entry e).toList = p.dir.toList ++ e.ownerFile.toList ++ ':' ::
      ((toString e.sourceLine).toList ++ p.columnPart ++ ':' :: ' ' ::
        (p.text.toList ++ '(' :: e.checkerName.toList ++ [')'])) := by
  simp [entry, place_toList]

lemma columnPart_blank (hp : p.WellFormed) : ∀ c ∈ p.columnPart, isAsciiSpace c = false := by
  unfold columnPart
  split
  · rename_i col hcol
    intro c hc
    rcases List.mem_cons.1 hc with rfl | hc
    · decide
    · exact hp.column_blank col hcol c hc
  · simp

/-- The place of a printed entry, up to its first blank: the directory, the file, the line, the
column if any, and a colon. -/
def placeChars (p : Printing) (e : Expectation) : List Char :=
  p.dir.toList ++ e.ownerFile.toList ++ ':' :: ((toString e.sourceLine).toList ++ p.columnPart) ++
    [':']

lemma entry_toList_place (p : Printing) (e : Expectation) :
    (p.entry e).toList = placeChars p e ++ ' ' ::
      (p.text.toList ++ '(' :: e.checkerName.toList ++ [')']) := by
  simp [entry_toList, placeChars]

lemma placeChars_blank (hp : p.WellFormed) (he : e.Plain) :
    ∀ c ∈ placeChars p e, isAsciiSpace c = false := by
  intro c hc
  simp only [placeChars, List.mem_append, List.mem_cons, List.not_mem_nil, or_false] at hc
  rcases hc with ((hc | hc) | rfl | hc | hc) | rfl
  · exact hp.dir_blank c hc
  · exact he.owner_blank c hc
  · decide
  · exact (digit_plain hc).1
  · exact columnPart_blank hp c hc
  · decide

lemma decompose_entry (hp : p.WellFormed) (he : e.Plain) :
    Entry.decompose (p.entry e) = some (p.text, e.checkerName) := by
  have hentry : p.entry e = String.ofList (placeChars p e ++ ' ' ::
      (p.text.toList ++ '(' :: e.checkerName.toList ++ [')'])) := by
    rw [← entry_toList_place, String.ofList_toList]
  have hplace : ∀ c ∈ placeChars p e, Entry.isWordChar c = true := fun c hc => by
    simp [Entry.isWordChar, placeChars_blank hp he c hc]
  have hlen : 2 ≤ (placeChars p e).length := by
    have howner : e.ownerFile.toList ≠ [] := by simpa using e.ownerFile_ne
    have := List.length_pos_iff.2 howner
    simp [placeChars]
    omega
  have hchecker : e.checkerName.toList ≠ [] := by simpa using he.checker_ne
  have hword : ∀ c ∈ e.checkerName.toList, Entry.isWordChar c = true := fun c hc => by
    simp [Entry.isWordChar, he.checker_blank c hc]
  rw [hentry, Entry.decompose_of_parts hplace (by rw [placeChars, List.getLast?_concat]) hlen
    hp.text_line hchecker
    hword he.checker_paren, String.ofList_toList, String.ofList_toList]

/-- What follows the line number of a canonical entry starts with a colon: the column's, or the
one before the message. -/
lemma exists_after_line (p : Printing) (e : Expectation) :
    ∃ r, p.columnPart ++ ':' :: ' ' :: (p.text.toList ++ '(' :: e.checkerName.toList ++ [')']) =
      ':' :: r := by
  unfold columnPart
  split <;> exact ⟨_, rfl⟩

/-- Dropping the directory of a canonical entry leaves the file, the rest of the place and the
message. -/
lemma withoutDirectory_entry (hp : p.WellFormed) (he : e.Plain) :
    Location.withoutDirectory (p.entry e).toList = some (e.ownerFile.toList ++ ':' ::
      ((toString e.sourceLine).toList ++ p.columnPart ++ ':' :: ' ' ::
        (p.text.toList ++ '(' :: e.checkerName.toList ++ [')']))) := by
  have hfield : ':' ∉ p.dir.toList ++ e.ownerFile.toList := by
    simp [hp.dir_colon, he.owner_colon]
  have hdir : p.dir.toList = [] ∨ p.dir.toList.getLast? = some '/' := by
    simpa using hp.dir_slash
  rw [entry_toList, Location.withoutDirectory_field hfield,
    Location.afterLastSlash_dir_append hdir he.owner_slash]

lemma reportedAt_entry_iff (hp : p.WellFormed) (he : e.Plain) {e' : Expectation}
    (he' : ':' ∉ e'.ownerFile.toList) :
    Location.reportedAt (p.entry e) e'.place = true ↔
      e'.ownerFile = e.ownerFile ∧ e'.sourceLine = e.sourceLine := by
  obtain ⟨r, hr⟩ := exists_after_line p e
  have hdigits : ∀ n : Nat, ':' ∉ (toString n).toList := fun n h => (digit_plain h).2 rfl
  have hplace : e'.place.toList ++ [':'] =
      e'.ownerFile.toList ++ ':' :: ((toString e'.sourceLine).toList ++ ':' :: []) := by
    simp [place_toList]
  unfold Location.reportedAt
  rw [withoutDirectory_entry hp he, List.append_assoc, hr]
  dsimp only
  rw [hplace, List.isPrefixOf_iff_prefix, prefix_sep_iff he' he.owner_colon,
    prefix_sep_iff (hdigits _) (hdigits _)]
  constructor
  · rintro ⟨hfile, hline, -⟩
    exact ⟨String.toList_inj.1 hfile, toString_inj (String.toList_inj.1 hline)⟩
  · rintro ⟨hfile, hline⟩
    exact ⟨by rw [hfile], by rw [hline], List.nil_prefix⟩

/-- An entry printed with a file name that holds `/` is not reported at its own place: dropping
the directory cuts the name too. -/
lemma not_reportedAt_own_of_slash (hp : p.WellFormed) (hslash : '/' ∈ e.ownerFile.toList)
    (hcolon : ':' ∉ e.ownerFile.toList) : Location.reportedAt (p.entry e) e.place = false := by
  have hfield : ':' ∉ p.dir.toList ++ e.ownerFile.toList := by
    simp [hp.dir_colon, hcolon]
  have hcut : ':' ∉ Location.afterLastSlash e.ownerFile.toList := fun h =>
    hcolon ((Location.afterLastSlash_suffix _).subset h)
  have hplace : e.place.toList ++ [':'] =
      e.ownerFile.toList ++ ':' :: ((toString e.sourceLine).toList ++ [':']) := by
    simp [place_toList]
  unfold Location.reportedAt
  rw [entry_toList, Location.withoutDirectory_field hfield,
    Location.afterLastSlash_append_of_slash hslash]
  dsimp only
  rw [hplace, Bool.eq_false_iff]
  intro h
  rw [List.isPrefixOf_iff_prefix, prefix_sep_iff hcolon hcut] at h
  exact Location.slash_not_mem_afterLastSlash _ (h.1 ▸ hslash)

end Printing

namespace Verdict

section Printed

variable (search : Expectation → String → Except Crash Bool)

/-- The turn of an expected error with exactly one candidate, a diagnostic from its checker whose
text its pattern finds: it raises nothing, consumes the candidate and leaves the entries at other
places in their order. -/
lemma turn_of_single_candidate {e : Expectation} {entries : List String} {x text : String}
    (hchecker : e.checkerName ≠ "")
    (hcand : entries.filter (Location.reportedAt · e.target) = [x])
    (hx : Entry.decompose x = some (text, e.checkerName)) (hfound : search e text = .ok true) :
    turn search e entries = .ok ([], entries.filter (!Location.reportedAt · e.target)) := by
  unfold turn
  simp only [hchecker, if_false, Location.partition, List.partition_eq_filter_filter,
    Function.comp_def, hcand, List.isEmpty_cons, Bool.false_eq_true]
  simp [scan, hx, hfound, bind, Except.bind, pure, Except.pure]

variable {search} {print : Expectation → Printing}

def PrintedPlainly (search : Expectation → String → Except Crash Bool)
    (print : Expectation → Printing) (es : List Expectation) : Prop :=
  ∀ e ∈ es, e.Plain ∧ (print e).WellFormed ∧ search e (print e).text = .ok true

/-- Over canonically printed entries, each turn consumes its own entry and raises nothing; the
invariant is that the unclaimed entries are, up to order, the entries of the expected errors
still to come. -/
lemma turns_printed :
    ∀ {es : List Expectation} {entries : List String}, PrintedPlainly search print es →
      (es.map fun e => (e.ownerFile, e.sourceLine)).Nodup →
      entries ~ es.map (fun e => (print e).entry e) → turns search es entries = .ok ([], [])
  | [], entries, _, _, hperm => by
    rw [List.map_nil, List.perm_nil] at hperm
    subst hperm
    rfl
  | e :: es, entries, hall, hnodup, hperm => by
    obtain ⟨he, hp, hf⟩ := hall e List.mem_cons_self
    obtain ⟨hkey, hnodup'⟩ := List.nodup_cons.1 (List.map_cons ▸ hnodup)
    have htarget : e.target = e.place := by simp [Expectation.target, he.not_auto]
    have hown : Location.reportedAt ((print e).entry e) e.target = true := by
      rw [htarget, Printing.reportedAt_entry_iff hp he he.owner_colon]
      exact ⟨rfl, rfl⟩
    have hothers : ∀ e' ∈ es, Location.reportedAt ((print e').entry e') e.target = false := by
      intro e' he'
      obtain ⟨hplain', hp', -⟩ := hall e' (List.mem_cons_of_mem e he')
      rw [htarget, Bool.eq_false_iff]
      intro hat
      obtain ⟨hfile, hline⟩ := (Printing.reportedAt_entry_iff hp' hplain' he.owner_colon).1 hat
      exact hkey (List.mem_map.2 ⟨e', he', by rw [hfile, hline]⟩)
    have hcand : entries.filter (Location.reportedAt · e.target) = [(print e).entry e] := by
      apply List.perm_singleton.1
      refine (hperm.filter _).trans ?_
      simp only [List.map_cons, List.filter_cons, hown, if_true, List.perm_cons]
      rw [List.filter_eq_nil_iff.2]
      simpa using hothers
    have hleft : entries.filter (!Location.reportedAt · e.target) ~
        es.map (fun e => (print e).entry e) := by
      refine (hperm.filter _).trans ?_
      simp only [List.map_cons, List.filter_cons, hown, Bool.not_true, Bool.false_eq_true, if_false]
      rw [List.filter_eq_self.2]
      simpa using hothers
    have hturn := turn_of_single_candidate search he.checker_ne hcand
      (Printing.decompose_entry hp he) hf
    have hrest := turns_printed (fun e' he' => hall e' (List.mem_cons_of_mem e he')) hnodup' hleft
    simp [turns, hturn, hrest, bind, Except.bind, pure, Except.pure]

end Printed

/-- Output printed the canonical way passes. Take expected errors at pairwise different places,
each of a file whose name holds no `/`, `:` or blank and of a named checker whose name holds no
blank and no `(`, and print each as `dir file:line[:column]: text(checker)` with a directory part
empty or ending in `/` and free of `:` and blanks, a column free of blanks, and a one-line text
its pattern finds: the check of these entries, in any order, passes. An entry printed with a file
name that holds `/` (and no `:`) is not reported at its own place at all. -/
theorem passes_on_printed_output (search : Expectation → String → Except Crash Bool)
    (es : List Expectation) (print : Expectation → Printing) (entries : List String)
    (hperm : entries ~ es.map fun e => (print e).entry e)
    (hplaces : (es.map fun e => (e.ownerFile, e.sourceLine)).Nodup)
    (hplain : ∀ e ∈ es, e.Plain) (hprint : ∀ e ∈ es, (print e).WellFormed)
    (hfound : ∀ e ∈ es, search e (print e).text = .ok true) :
    (∃ v, ofEntries search entries es = .ok v ∧ v.passed = true) ∧
      ∀ (e : Expectation) (p : Printing), p.WellFormed → e.auto = false →
        '/' ∈ e.ownerFile.toList → ':' ∉ e.ownerFile.toList →
          Location.reportedAt (p.entry e) e.target = false := by
  refine ⟨⟨⟨[], []⟩, ?_, rfl⟩, fun e p hp hauto hslash hcolon => ?_⟩
  · have hrun := turns_printed (fun e he => ⟨hplain e he, hprint e he, hfound e he⟩) hplaces hperm
    simpa using ofEntries_ok hrun (rfl : leftovers [] = .ok [])
  · simp only [Expectation.target, hauto, Bool.false_eq_true, if_false]
    exact Printing.not_reportedAt_own_of_slash hp hslash hcolon

theorem passes_on_printed_output_sample :
    let e₁ : Expectation :=
      { pattern := "undefined", regex := ⟨[], {}, 1⟩, sourceLine := 3, auto := false,
        ownerFile := "x.go", checkerName := "vet", sourceLine_pos := by decide,
        ownerFile_ne := by decide }
    let e₂ : Expectation :=
      { pattern := "call", regex := ⟨[], {}, 1⟩, sourceLine := 12, auto := false,
        ownerFile := "y.go", checkerName := "lint", sourceLine_pos := by decide,
        ownerFile_ne := by decide }
    let print : Expectation → Printing := fun e =>
      if e.sourceLine = 3 then ⟨"src/", some "7", "undefined: x (twice) "⟩
      else ⟨"", none, "bad call: "⟩
    let entries := ([e₁, e₂].map fun e => (print e).entry e).reverse
    (entries ~ [e₁, e₂].map (fun e => (print e).entry e) ∧
      ([e₁, e₂].map fun e => (e.ownerFile, e.sourceLine)).Nodup ∧
      (∀ e ∈ [e₁, e₂], e.Plain) ∧ (∀ e ∈ [e₁, e₂], (print e).WellFormed) ∧
      ∀ e ∈ [e₁, e₂], Verdict.pureSearch (fun _ _ => true) e (print e).text = .ok true) ∧
    (∃ v, ofEntries (pureSearch fun _ _ => true) entries [e₁, e₂] = .ok v ∧ v.passed = true) ∧
      ∀ (e : Expectation) (p : Printing), p.WellFormed → e.auto = false →
        '/' ∈ e.ownerFile.toList → ':' ∉ e.ownerFile.toList →
          Location.reportedAt (p.entry e) e.target = false := by
  intro e₁ e₂ print entries
  have hperm : entries ~ [e₁, e₂].map (fun e => (print e).entry e) := List.reverse_perm _
  have hnodup : ([e₁, e₂].map fun e => (e.ownerFile, e.sourceLine)).Nodup := by decide
  -- blanks are checked through `List.all`, which evaluates character by character
  have hblank : ∀ s : String, s.toList.all (fun c => !isAsciiSpace c) = true →
      ∀ c ∈ s.toList, isAsciiSpace c = false := fun s h c hc => by
    simpa using List.all_eq_true.1 h c hc
  have hplain : ∀ e ∈ [e₁, e₂], e.Plain := by
    intro e he
    simp only [List.mem_cons, List.not_mem_nil, or_false] at he
    rcases he with rfl | rfl <;>
      exact ⟨rfl, by decide, by decide, hblank _ (by decide), by decide, hblank _ (by decide),
        by decide⟩
  have hprint : ∀ e ∈ [e₁, e₂], (print e).WellFormed := by
    intro e he
    simp only [List.mem_cons, List.not_mem_nil, or_false] at he
    rcases he with rfl | rfl
    · refine ⟨by decide, by decide, hblank _ (by decide), fun col hcol => ?_, by decide⟩
      cases hcol
      exact hblank _ (by decide)
    · exact ⟨by decide, by decide, hblank _ (by decide), fun col hcol => (by cases hcol),
        by decide⟩
  have hfound : ∀ e ∈ [e₁, e₂], pureSearch (fun _ _ => true) e (print e).text = .ok true :=
    fun _ _ => rfl
  exact ⟨⟨hperm, hnodup, hplain, hprint, hfound⟩,
    passes_on_printed_output _ _ _ _ hperm hnodup hplain hprint hfound⟩

end Verdict

end DiagnosticCheck
