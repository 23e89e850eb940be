import DiagnosticCheck.Check
import DiagnosticCheck.Proofs.Completeness
import Mathlib

/-!
# Shortened paths keep their entries at their sources

Before matching, every entry has each source's full path written as its short name, one plain
replacement per source, in the order of the sources. For sources named by the part of their path
after its last `/`, with paths free of `:`, an entry printed at a source's full path is reported
at that source's short name and line after all the replacements, provided that no source listed
before it has a path holding a `/` that occurs inside its own.

The argument follows the entry's colons. No path holds a `:`, so every replacement works on the
file field and on the rest of the entry apart. The digits of the line hold no `/`, and a path
without `/` is its own short name, so no replacement changes them. The file field is untouched by
the sources before its own, becomes the short name at its own, and holds no `/` afterwards, so
the sources after it leave it alone.

Without the proviso the statement fails: with `a/b.go` listed before `xa/b.go`, the entry
`xa/b.go:5: msg` becomes `xb.go:5: msg` before `xa/b.go` has its turn, and it is no longer
reported at `b.go:5`.
-/

namespace DiagnosticCheck

open scoped List

namespace Text

section Replacing

variable {p : Char} {ps rep : List Char}

lemma prefix_of_prefix_append_cons {c : Char} {y : List Char} :
    ∀ {l x : List Char}, c ∉ l → l <+: x ++ c :: y → l <+: x
  | l, [], hc, h => by
    rcases List.prefix_cons_iff.1 h with rfl | ⟨t, rfl, -⟩
    · exact List.nil_prefix
    · exact absurd List.mem_cons_self hc
  | l, d :: x, hc, h => by
    rcases List.prefix_cons_iff.1 h with rfl | ⟨t, rfl, ht⟩
    · exact List.nil_prefix
    · exact (List.prefix_cons_inj d).2
        (prefix_of_prefix_append_cons (fun h => hc (List.mem_cons_of_mem d h)) ht)

lemma replaceFrom_append_cons {c : Char} (hc : c ∉ p :: ps) (x y : List Char) :
    replaceFrom p ps rep (x ++ c :: y) = replaceFrom p ps rep x ++ c :: replaceFrom p ps rep y := by
  fun_induction replaceFrom p ps rep x with
  | case1 =>
    have hnot : ¬ (p :: ps) <+: c :: y := fun h =>
      hc ((List.cons_prefix_cons.1 h).1 ▸ List.mem_cons_self)
    rw [List.nil_append, replaceFrom.eq_2, if_neg (by simpa using hnot), List.nil_append]
  | case2 d cs hpre ih =>
    have hpre' : (p :: ps) <+: d :: cs := by simpa using hpre
    have hlen : ps.length ≤ cs.length := by simpa using hpre'.length_le
    have hext : (p :: ps) <+: d :: cs ++ c :: y := List.prefix_append_of_prefix hpre'
    rw [List.cons_append, replaceFrom.eq_2, if_pos (by simpa using hext),
      List.drop_append_of_le_length hlen, ih, List.append_assoc]
  | case3 d cs hpre ih =>
    have hnot : ¬ (p :: ps) <+: d :: cs ++ c :: y := fun h =>
      hpre (by simpa using prefix_of_prefix_append_cons hc h)
    rw [List.cons_append, replaceFrom.eq_2, if_neg (by simpa using hnot), ih, List.cons_append]

lemma replaceFrom_self (cs : List Char) : replaceFrom p ps (p :: ps) cs = cs := by
  fun_induction replaceFrom p ps (p :: ps) cs with
  | case1 => rfl
  | case2 d cs hpre ih =>
    have hpre' : p = d ∧ ps <+: cs := by simpa using hpre
    rw [ih, hpre'.1, List.cons_append, List.prefix_iff_eq_append.1 hpre'.2]
  | case3 d cs hpre ih => rw [ih]

lemma replaceFrom_of_not_infix (cs : List Char) :
    ¬ (p :: ps) <:+: cs → replaceFrom p ps rep cs = cs := by
  fun_induction replaceFrom p ps rep cs with
  | case1 => intro; rfl
  | case2 d cs hpre ih =>
    intro h
    exact absurd (List.isPrefixOf_iff_prefix.1 hpre).isInfix h
  | case3 d cs hpre ih =>
    intro h
    rw [ih fun hin => h (List.infix_cons hin)]

lemma replaceChars_append_cons {pat : List Char} {c : Char} (hc : c ∉ pat) (x y : List Char) :
    replaceChars pat rep (x ++ c :: y) = replaceChars pat rep x ++ c :: replaceChars pat rep y := by
  cases pat with
  | nil => rfl
  | cons p ps => exact replaceFrom_append_cons hc x y

/-- A replacement changes nothing where the pattern is its own replacement or does not occur. -/
lemma replaceChars_eq_self {pat cs : List Char} (h : pat = rep ∨ ¬ pat <:+: cs) :
    replaceChars pat rep cs = cs := by
  cases pat with
  | nil => rfl
  | cons p ps =>
    rcases h with rfl | h
    · exact replaceFrom_self cs
    · exact replaceFrom_of_not_infix cs h

lemma replaceChars_whole {pat : List Char} (hpat : pat ≠ []) : replaceChars pat rep pat = rep := by
  cases pat with
  | nil => exact absurd rfl hpat
  | cons p ps =>
    rw [replaceChars, replaceFrom.eq_2, if_pos (by simp), List.drop_length, replaceFrom.eq_1,
      List.append_nil]

end Replacing

end Text

lemma Location.afterLastSlash_of_slash_free {cs : List Char} (h : '/' ∉ cs) :
    Location.afterLastSlash cs = cs :=
  Location.afterLastSlash_dir_append (.inl rfl) h

namespace SourceFile

/-- A source as it is built from a path free of `:`: named by the part after the path's last
`/`. -/
structure FromPath (s : SourceFile) : Prop where
  shortName_eq : s.shortName = baseName s.fullPath
  colon_free : ':' ∉ s.fullPath.toList

def rewrite (s : SourceFile) (cs : List Char) : List Char :=
  Text.replaceChars s.fullPath.toList s.shortName.toList cs

def rewriteAll (ts : List SourceFile) (cs : List Char) : List Char :=
  ts.foldl (fun cs t => t.rewrite cs) cs

@[simp] lemma rewriteAll_nil (cs : List Char) : rewriteAll [] cs = cs := rfl

@[simp] lemma rewriteAll_cons (t : SourceFile) (ts : List SourceFile) (cs : List Char) :
    rewriteAll (t :: ts) cs = rewriteAll ts (t.rewrite cs) := rfl

lemma rewriteAll_append (ts us : List SourceFile) (cs : List Char) :
    rewriteAll (ts ++ us) cs = rewriteAll us (rewriteAll ts cs) := by
  simp [rewriteAll, List.foldl_append]

lemma shorten_toList (s : SourceFile) (entry : String) :
    (s.shorten entry).toList = s.rewrite entry.toList := by
  unfold shorten rewrite
  split
  · rename_i h
    simp [h, Text.replaceChars]
  · simp [Text.replace]

lemma foldl_shorten_toList (ts : List SourceFile) (entry : String) :
    (ts.foldl shorten entry).toList = rewriteAll ts entry.toList := by
  induction ts generalizing entry with
  | nil => rfl
  | cons t ts ih => rw [List.foldl_cons, ih, shorten_toList, rewriteAll_cons]

namespace FromPath

variable {s : SourceFile} (hs : s.FromPath)
include hs

lemma shortName_toList : s.shortName.toList = Location.afterLastSlash s.fullPath.toList := by
  simp [hs.shortName_eq, baseName, Location.afterLastSlash]

lemma slash_not_mem_shortName : '/' ∉ s.shortName.toList := by
  rw [hs.shortName_toList]
  exact Location.slash_not_mem_afterLastSlash _

lemma colon_not_mem_shortName : ':' ∉ s.shortName.toList := fun h =>
  hs.colon_free ((Location.afterLastSlash_suffix _).mem (hs.shortName_toList ▸ h))

lemma fullPath_ne_nil : s.fullPath.toList ≠ [] := fun h =>
  s.shortName_ne (String.toList_eq_nil_iff.1 (by simp [hs.shortName_toList, h,
    Location.afterLastSlash]))

/-- A colon splits a source's rewrite of an entry, since its path holds none. -/
lemma rewrite_append_colon (x y : List Char) :
    s.rewrite (x ++ ':' :: y) = s.rewrite x ++ ':' :: s.rewrite y :=
  Text.replaceChars_append_cons hs.colon_free x y

/-- A source leaves a text alone when its path holds no `/` (it is then its own short name) or
does not occur in it. -/
lemma rewrite_eq_self {cs : List Char}
    (h : '/' ∈ s.fullPath.toList → ¬ s.fullPath.toList <:+: cs) : s.rewrite cs = cs := by
  apply Text.replaceChars_eq_self
  by_cases hslash : '/' ∈ s.fullPath.toList
  · exact .inr (h hslash)
  · left
    rw [hs.shortName_toList, Location.afterLastSlash_of_slash_free hslash]

lemma rewrite_fullPath : s.rewrite s.fullPath.toList = s.shortName.toList :=
  Text.replaceChars_whole hs.fullPath_ne_nil

end FromPath

section Runs

variable {ts : List SourceFile}

lemma rewriteAll_append_colon (hts : ∀ t ∈ ts, t.FromPath) (x y : List Char) :
    rewriteAll ts (x ++ ':' :: y) = rewriteAll ts x ++ ':' :: rewriteAll ts y := by
  induction ts generalizing x y with
  | nil => rfl
  | cons t ts ih =>
    simp only [List.forall_mem_cons] at hts
    rw [rewriteAll_cons, hts.1.rewrite_append_colon, ih hts.2, rewriteAll_cons, rewriteAll_cons]

/-- A text that no source changes comes out of the whole run as it went in. -/
lemma rewriteAll_eq_self {cs : List Char} (hts : ∀ t ∈ ts, t.FromPath)
    (h : ∀ t ∈ ts, '/' ∈ t.fullPath.toList → ¬ t.fullPath.toList <:+: cs) :
    rewriteAll ts cs = cs := by
  induction ts with
  | nil => rfl
  | cons t ts ih =>
    simp only [List.forall_mem_cons] at hts h
    rw [rewriteAll_cons, hts.1.rewrite_eq_self h.1, ih hts.2 h.2]

lemma rewriteAll_of_slash_free {cs : List Char} (hts : ∀ t ∈ ts, t.FromPath) (hcs : '/' ∉ cs) :
    rewriteAll ts cs = cs :=
  rewriteAll_eq_self hts fun _ _ hslash hin => hcs (hin.mem hslash)

end Runs

/-- An entry printed at a source's path and a line comes out of the rewrites with the path
written as the short name and the line as it was, provided no source listed before it has a path
holding a `/` that occurs in its own. -/
lemma rewriteAll_entry {before after : List SourceFile} {s : SourceFile}
    (hfrom : ∀ t ∈ before ++ s :: after, t.FromPath)
    (hbefore : ∀ t ∈ before, '/' ∈ t.fullPath.toList → ¬ t.fullPath.toList <:+: s.fullPath.toList)
    (line : Nat) (rest : List Char) :
    rewriteAll (before ++ s :: after) (s.fullPath.toList ++ ':' :: (toString line).toList ++
        ':' :: rest) =
      s.shortName.toList ++ ':' :: (toString line).toList ++
        ':' :: rewriteAll (before ++ s :: after) rest := by
  have hs : s.FromPath := hfrom s (by simp)
  have hfromBefore : ∀ t ∈ before, t.FromPath := fun t ht => hfrom t (by simp [ht])
  have hfromAfter : ∀ t ∈ after, t.FromPath := fun t ht => hfrom t (by simp [ht])
  have hdigits : '/' ∉ (toString line).toList := fun h =>
    absurd (isDigit_of_mem_toString h) (by decide)
  -- the file field: kept by the sources before, shortened by its own, kept by those after
  have hfield : rewriteAll (before ++ s :: after) s.fullPath.toList = s.shortName.toList := by
    rw [rewriteAll_append, rewriteAll_eq_self hfromBefore hbefore, rewriteAll_cons,
      hs.rewrite_fullPath, rewriteAll_of_slash_free hfromAfter hs.slash_not_mem_shortName]
  rw [rewriteAll_append_colon hfrom, List.append_cons _ ':', List.append_assoc,
    rewriteAll_append_colon hfrom, hfield, rewriteAll_of_slash_free hfrom hdigits]
  simp

end SourceFile

/-- An entry printed at a source's full path and a line is reported, once the paths of all
sources are shortened, at the source's short name and that line, whatever follows, provided that
every source is named by the part of its path after the last `/`, no path holds a `:`, and no
source listed before it has a path holding a `/` that occurs inside its own. -/
theorem shortened_entry_reported_at_own_line (before after : List SourceFile) (s : SourceFile)
    (hfrom : ∀ t ∈ before ++ s :: after, t.FromPath)
    (hbefore : ∀ t ∈ before, '/' ∈ t.fullPath.toList → ¬ t.fullPath.toList <:+: s.fullPath.toList)
    (line : Nat) (rest : String) :
    Location.reportedAt ((before ++ s :: after).foldl SourceFile.shorten
        (s.fullPath ++ ":" ++ toString line ++ ":" ++ rest))
      (s.shortName ++ ":" ++ toString line) = true := by
  have hs : s.FromPath := hfrom s (by simp)
  have hentry : (s.fullPath ++ ":" ++ toString line ++ ":" ++ rest).toList =
      s.fullPath.toList ++ ':' :: (toString line).toList ++ ':' :: rest.toList := by
    simp
  rw [Location.reportedAt, SourceFile.foldl_shorten_toList, hentry,
    SourceFile.rewriteAll_entry hfrom hbefore, List.append_assoc, List.cons_append,
    Location.withoutDirectory_field hs.colon_not_mem_shortName,
    Location.afterLastSlash_of_slash_free hs.slash_not_mem_shortName]
  simp

/-- A source without `/` may come first even though its path occurs inside the next one's: it is
its own short name. A source after the entry's own may hold the entry's file name. -/
theorem shortened_entry_reported_at_own_line_sample :
    let b : SourceFile := ⟨"b.go", "b.go", by decide⟩
    let ab : SourceFile := ⟨"a/b.go", "b.go", by decide⟩
    let xab : SourceFile := ⟨"xa/b.go", "b.go", by decide⟩
    ((∀ t ∈ [b] ++ ab :: [xab], t.FromPath) ∧
      ∀ t ∈ [b], '/' ∈ t.fullPath.toList → ¬ t.fullPath.toList <:+: ab.fullPath.toList) ∧
    Location.reportedAt (([b] ++ ab :: [xab]).foldl SourceFile.shorten
        (ab.fullPath ++ ":" ++ toString 7 ++ ":" ++ " declared and not used: x (vet)"))
      (ab.shortName ++ ":" ++ toString 7) = true := by
  intro b ab xab
  have hfrom : ∀ t ∈ [b] ++ ab :: [xab], t.FromPath := by
    intro t ht
    simp only [List.cons_append, List.nil_append, List.mem_cons, List.not_mem_nil,
      or_false] at ht
    rcases ht with rfl | rfl | rfl <;> exact ⟨by decide, by decide⟩
  have hbefore :
      ∀ t ∈ [b], '/' ∈ t.fullPath.toList → ¬ t.fullPath.toList <:+: ab.fullPath.toList := by
    intro t ht hslash
    rw [List.mem_singleton] at ht
    subst ht
    exact absurd hslash (by decide)
  exact ⟨⟨hfrom, hbefore⟩, shortened_entry_reported_at_own_line [b] [xab] ab hfrom hbefore 7 _⟩

/-- Sources built from the distinct paths `a/b.go` and `xa/b.go`, in this order: an entry printed at
`xa/b.go` and line 5 is not reported at `b.go:5`, since the first source rewrites it into
`xb.go:5: ...`. -/
theorem shortening_loses_nested_path :
    let ab : SourceFile := ⟨"a/b.go", "b.go", by decide⟩
    let xab : SourceFile := ⟨"xa/b.go", "b.go", by decide⟩
    ab.FromPath ∧ xab.FromPath ∧ ab.fullPath ≠ xab.fullPath ∧
      Location.reportedAt ([ab, xab].foldl SourceFile.shorten
          (xab.fullPath ++ ":" ++ toString 5 ++ ":" ++ " msg (vet)"))
        (xab.shortName ++ ":" ++ toString 5) = false := by
  intro ab xab
  refine ⟨⟨by decide, by decide⟩, ⟨by decide, by decide⟩, by decide, ?_⟩
  -- the replacements are computed by the kernel, through their well-founded recursion
  decide +kernel

end DiagnosticCheck
