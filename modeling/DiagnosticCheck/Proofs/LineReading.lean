import DiagnosticCheck.Directive
import DiagnosticCheck.Proofs.Blocks
import Mathlib

/-!
# Reading the annotations of a text, line by line

A text is read one line at a time. Each pattern is compiled once: a cache keeps the patterns
compiled on the lines before, with their compiled forms, and later lines take them from it. The
cache changes nothing. Every pattern it holds maps to what the compiler makes of that pattern,
reading a line keeps it so, and hence the cached reading of a text is its reading line by line,
each pattern compiled afresh (`parseText_eq_parseLines`).

Read so, a text whose lines all read gives the expected errors of its annotated lines in line
order, each with the compiled form of its own pattern; otherwise it fails with the error of the
first line that fails. A line fails on its literal first, then on its pattern, then on making the
expected error, which needs a named owner.
-/

namespace DiagnosticCheck

namespace Expectation

/-- A made expected error carries the pattern, the compiled form, the line and the owner it was
made from. -/
lemma make?_eq_ok {pattern : String} {regex : Regex.Pattern} {n : Nat} {auto : Bool}
    {owner checker : String} {x : Expectation}
    (h : make? pattern regex n auto owner checker = .ok x) :
    x.pattern = pattern ∧ x.regex = regex ∧ x.sourceLine = n ∧ x.ownerFile = owner := by
  unfold make? at h
  split at h
  · split at h
    · cases h
      exact ⟨rfl, rfl, Int.toNat_natCast n, rfl⟩
    · cases h
  · cases h

end Expectation

namespace Directive

section Reading

variable {origin shortName defaultChecker : String}

section Line

variable {n : Nat} {line : String} {compile : String → Except Regex.Error Regex.Pattern}

/-- What reading a line can give: nothing for a line without annotation, else an expected error
at that line, for the owner, with what `compile` makes of its pattern. -/
lemma parseLine_eq_ok {o : Option Expectation}
    (h : parseLine origin shortName defaultChecker n line compile = .ok o) :
    (o = none ∧ find? line.toList = none) ∨
      ∃ x, o = some x ∧ (find? line.toList).isSome ∧ compile x.pattern = .ok x.regex ∧
        x.sourceLine = n ∧ x.ownerFile = shortName := by
  unfold parseLine at h
  split at h
  next hfind =>
    cases h
    exact .inl ⟨rfl, hfind⟩
  next hfind =>
    split at h
    split at h
    next => cases h
    next pattern _ =>
      split at h
      next => split at h <;> cases h
      next regex hcompile =>
        split at h
        next => cases h
        next x hmake =>
          cases h
          obtain ⟨rfl, rfl, hline, howner⟩ := Expectation.make?_eq_ok hmake
          exact .inr ⟨_, rfl, by simp [hfind], hcompile, hline, howner⟩

/-- An expected error a line reads as is made at that line from what `compile` makes of its
pattern. -/
lemma parseLine_eq_ok_some {x : Expectation}
    (h : parseLine origin shortName defaultChecker n line compile = .ok (some x)) :
    compile x.pattern = .ok x.regex ∧ x.sourceLine = n := by
  rcases parseLine_eq_ok h with ⟨hnone, -⟩ | ⟨y, hy, -, hcompile, hline, -⟩
  · cases hnone
  · cases hy
    exact ⟨hcompile, hline⟩

/-- The literal of an annotation, given what follows its marker: the rest after the checker name
if one is given, blanks around it stripped. -/
def literalText (rest : List Char) : String :=
  Text.strip (String.ofList ((checkerPrefix rest).elim rest Prod.snd))

variable {auto : Bool} {rest : List Char}

/-- An annotated line whose literal does not decode fails on its literal, at its line. -/
lemma parseLine_literalInvalid (hfind : find? line.toList = some (auto, rest)) {e : LiteralError}
    (hdecode : Literal.decode (literalText rest) = .error e) :
    parseLine origin shortName defaultChecker n line compile =
      .error (.fixture (.literalInvalid origin n (Text.strip line) e)) := by
  unfold literalText at hdecode
  cases hc : checkerPrefix rest <;> simp_all [parseLine]

/-- An annotated line whose literal decodes to a pattern at fault fails on that pattern, at its
line. -/
lemma parseLine_regexInvalid (hfind : find? line.toList = some (auto, rest)) {pattern : String}
    (hdecode : Literal.decode (literalText rest) = .ok pattern) {e : Regex.Error}
    (hcompile : compile pattern = .error e) (hfault : e.fault.raised = .pattern) :
    parseLine origin shortName defaultChecker n line compile =
      .error (.fixture (.regexInvalid origin n pattern e)) := by
  unfold literalText at hdecode
  cases hc : checkerPrefix rest <;> simp_all [parseLine]

/-- Without an owner, an annotated line whose pattern compiles fails: the expected error cannot
be made. -/
lemma parseLine_ownerEmpty (hn : 0 < n) (hfind : find? line.toList = some (auto, rest))
    {pattern : String} (hdecode : Literal.decode (literalText rest) = .ok pattern)
    {regex : Regex.Pattern} (hcompile : compile pattern = .ok regex) :
    parseLine origin "" defaultChecker n line compile = .error (.expectation .ownerEmpty) := by
  have hpos : (0 : Int) < n := by omega
  unfold literalText at hdecode
  cases hc : checkerPrefix rest <;> simp_all [parseLine, Expectation.make?]

end Line

section Cache

def CacheSound (cache : List (String × Regex.Pattern)) : Prop :=
  ∀ pattern regex, cache.lookup pattern = some regex → Regex.compile pattern = .ok regex

lemma cacheSound_nil : CacheSound [] := by
  intro pattern regex h
  cases h

variable {cache : List (String × Regex.Pattern)}

lemma compileCached_of_sound (h : CacheSound cache) : compileCached cache = Regex.compile := by
  funext pattern
  unfold compileCached
  split
  next regex hfound => exact (h pattern regex hfound).symm
  next => rfl

/-- Remembering what a line read as keeps a cache sound: a pattern is added only with what the
compiler made of it. -/
lemma CacheSound.remember (h : CacheSound cache) {n : Nat} {line : String} {o : Option Expectation}
    (hline : parseLine origin shortName defaultChecker n line = .ok o) :
    CacheSound (remember cache o) := by
  rcases parseLine_eq_ok hline with ⟨rfl, -⟩ | ⟨x, rfl, -, hcompile, -⟩
  · exact h
  · simp only [Directive.remember]
    split_ifs
    · exact h
    · intro pattern regex hfound
      rw [List.lookup_cons] at hfound
      split at hfound
      next hsame =>
        cases hfound
        rw [beq_iff_eq] at hsame
        rw [hsame]
        exact hcompile
      next => exact h pattern regex hfound

/-- From a sound cache on, the cached reading of lines is their reading one by one. The induction
is on the lines; the invariant is that the cache stays sound. -/
lemma parseLinesCached_eq_parseLines :
    ∀ {cache : List (String × Regex.Pattern)} {n : Nat} (lines : List String), CacheSound cache →
      parseLinesCached origin shortName defaultChecker cache n lines =
        parseLines origin shortName defaultChecker n lines
  | _, _, [], _ => rfl
  | cache, n, line :: rest, h => by
    rw [parseLinesCached, parseLines, compileCached_of_sound h]
    cases hline : parseLine origin shortName defaultChecker n line with
    | error err => rfl
    | ok o =>
      simp only [bind, Except.bind]
      rw [parseLinesCached_eq_parseLines rest (h.remember hline)]

/-- The cache of a text changes nothing: reading the text is reading its lines one by one, each
pattern compiled afresh. -/
lemma parseText_eq_parseLines (text shortName defaultChecker : String) (source : Option String) :
    parseText text shortName defaultChecker source =
      parseLines (source.getD shortName) shortName defaultChecker 1 (Text.splitOnChar text '\n') :=
  parseLinesCached_eq_parseLines _ cacheSound_nil

end Cache

section Lines

/-- Lines that all read give, in order, the expected error of each annotated line: the one that
line reads as. -/
lemma parseLines_of_forall_ok :
    ∀ {n : Nat} (lines : List String),
      (∀ p ∈ lines.zipIdx n, ∃ o, parseLine origin shortName defaultChecker p.2 p.1 = .ok o) →
      ∃ xs, parseLines origin shortName defaultChecker n lines = .ok xs ∧
        List.Forall₂ (fun x p => parseLine origin shortName defaultChecker p.2 p.1 = .ok (some x))
          xs ((lines.zipIdx n).filter fun p => (find? p.1.toList).isSome)
  | _, [], _ => ⟨[], rfl, .nil⟩
  | n, line :: rest, h => by
    obtain ⟨o, ho⟩ := h (line, n) (by simp [List.zipIdx_cons])
    obtain ⟨xs, hxs, hrel⟩ := parseLines_of_forall_ok rest
      fun p (hp : p ∈ rest.zipIdx (n + 1)) => h p (by simp [List.zipIdx_cons, hp])
    refine ⟨o.toList ++ xs, by rw [parseLines, ho, hxs]; rfl, ?_⟩
    rw [List.zipIdx_cons, List.filter_cons]
    rcases parseLine_eq_ok ho with ⟨rfl, hfind⟩ | ⟨x, rfl, hfind, -⟩
    · simpa [hfind] using hrel
    · have hcons : List.Forall₂
          (fun x p => parseLine origin shortName defaultChecker p.2 p.1 = .ok (some x)) (x :: xs)
          ((line, n) :: (rest.zipIdx (n + 1)).filter fun p => (find? p.1.toList).isSome) :=
        .cons ho hrel
      simpa [hfind] using hcons

lemma parseLines_of_first_error :
    ∀ {n : Nat} (lines : List String) {line : String} {L : Nat} {err : DirectiveError},
      (line, L) ∈ lines.zipIdx n → parseLine origin shortName defaultChecker L line = .error err →
      (∀ p ∈ lines.zipIdx n, p.2 < L →
        ∃ o, parseLine origin shortName defaultChecker p.2 p.1 = .ok o) →
      parseLines origin shortName defaultChecker n lines = .error err
  | _, [], _, _, _, hmem, _, _ => by simp at hmem
  | n, first :: rest, line, L, err, hmem, hfail, hbefore => by
    rw [List.zipIdx_cons, List.mem_cons] at hmem
    rcases hmem with hfirst | hlater
    · obtain ⟨rfl, rfl⟩ := Prod.mk.inj hfirst
      rw [parseLines, hfail]
      rfl
    · have hlt : n < L := List.le_snd_of_mem_zipIdx hlater
      obtain ⟨o, ho⟩ := hbefore (first, n) (by simp [List.zipIdx_cons]) hlt
      have hrest := parseLines_of_first_error rest hlater hfail fun p hp =>
        hbefore p (by simp [List.zipIdx_cons, hp])
      rw [parseLines, ho, hrest]
      rfl

end Lines

section Files

variable {w : Workspace} {fullPath : String}

lemma parseFile_of_readText {text : String} (h : w.readText (normalPath fullPath) = .ok text) :
    parseFile w fullPath shortName defaultChecker =
      parseText text shortName defaultChecker (some fullPath) := by
  unfold parseFile
  rw [h]

/-- A source file that cannot be read, for a reason other than a NUL in its path, is a read
failure of the file. -/
lemma parseFile_of_unreadable {f : ReadFailure} (h : w.readText (normalPath fullPath) = .error f)
    (hf : f ≠ .nulInPath) :
    parseFile w fullPath shortName defaultChecker = .error (.fixture (.readFailed fullPath f)) := by
  unfold parseFile
  rw [h]
  cases f with
  | nulInPath => exact absurd rfl hf
  | _ => rfl

end Files

end Reading

/-- Reading a text is reading its lines one by one, each pattern compiled afresh: the cache of a
text changes nothing. When every line reads, the result is the expected errors of the annotated
lines (lines without `////` that hold a marker) in line order, each at its line and with the
compiled form of its own pattern, so that expected errors with equal patterns have equal compiled
forms. Otherwise it is the error of the first line that fails. An annotated line fails on a
literal that does not decode, with a literal error at its line; else on a pattern the compiler
finds at fault, with a regex error at its line; and, in a text without owner, on making the
expected error. A source file that reads is read as its text, with its path as the origin; one
that cannot be read or decoded, for a reason other than a NUL in its path, is a read failure,
which has no line. -/
theorem parseText_by_lines (text shortName defaultChecker : String) (source : Option String) :
    let origin := source.getD shortName
    let numbered := (Text.splitOnChar text '\n').zipIdx 1
    parseText text shortName defaultChecker source =
        parseLines origin shortName defaultChecker 1 (Text.splitOnChar text '\n') ∧
    ((∀ p ∈ numbered, ∃ o, parseLine origin shortName defaultChecker p.2 p.1 = .ok o) →
      ∃ xs, parseText text shortName defaultChecker source = .ok xs ∧
        List.Forall₂ (fun x p => Regex.compile x.pattern = .ok x.regex ∧
            parseLine origin shortName defaultChecker p.2 p.1 = .ok (some x) ∧ x.sourceLine = p.2)
          xs (numbered.filter fun p => (find? p.1.toList).isSome) ∧
        ∀ x ∈ xs, ∀ y ∈ xs, x.pattern = y.pattern → x.regex = y.regex) ∧
    (∀ line L err, (line, L) ∈ numbered →
      parseLine origin shortName defaultChecker L line = .error err →
      (∀ p ∈ numbered, p.2 < L → ∃ o, parseLine origin shortName defaultChecker p.2 p.1 = .ok o) →
      parseText text shortName defaultChecker source = .error err) ∧
    (∀ line L auto rest, (line, L) ∈ numbered → find? line.toList = some (auto, rest) →
      (∀ e, Literal.decode (literalText rest) = .error e →
        parseLine origin shortName defaultChecker L line =
          .error (.fixture (.literalInvalid origin L (Text.strip line) e))) ∧
      (∀ pattern e, Literal.decode (literalText rest) = .ok pattern →
        Regex.compile pattern = .error e → e.fault.raised = .pattern →
        parseLine origin shortName defaultChecker L line =
          .error (.fixture (.regexInvalid origin L pattern e))) ∧
      (∀ pattern regex, Literal.decode (literalText rest) = .ok pattern →
        Regex.compile pattern = .ok regex → shortName = "" →
        parseLine origin shortName defaultChecker L line = .error (.expectation .ownerEmpty))) ∧
    ∀ (w : Workspace) fullPath,
      (∀ decoded, w.readText (normalPath fullPath) = .ok decoded →
        parseFile w fullPath shortName defaultChecker =
          parseText decoded shortName defaultChecker (some fullPath)) ∧
      (∀ f, w.readText (normalPath fullPath) = .error f → f ≠ .nulInPath →
        parseFile w fullPath shortName defaultChecker =
          .error (.fixture (.readFailed fullPath f)) ∧ (FixtureError.readFailed fullPath f).line = none) := by
  intro origin numbered
  have hlines := parseText_eq_parseLines text shortName defaultChecker source
  refine ⟨hlines, fun hall => ?_, fun line L err hmem hfail hbefore => ?_,
    fun line L auto rest hmem hfind => ?_, fun w fullPath => ?_⟩
  · obtain ⟨xs, hxs, hrel⟩ := parseLines_of_forall_ok _ hall
    have hrel' : List.Forall₂ (fun x p => Regex.compile x.pattern = .ok x.regex ∧
        parseLine origin shortName defaultChecker p.2 p.1 = .ok (some x) ∧ x.sourceLine = p.2)
        xs (numbered.filter fun p => (find? p.1.toList).isSome) := hrel.imp fun x p hx =>
      ⟨(parseLine_eq_ok_some hx).1, hx, (parseLine_eq_ok_some hx).2⟩
    have hcompiled : ∀ x ∈ xs, Regex.compile x.pattern = .ok x.regex :=
      ((List.forall₂_and_left _ _).1 hrel').1
    refine ⟨xs, hlines.trans hxs, hrel', fun x hx y hy hsame => ?_⟩
    have h := (hcompiled x hx).symm.trans (hsame ▸ hcompiled y hy)
    exact Except.ok.inj h
  · exact hlines.trans (parseLines_of_first_error _ hmem hfail hbefore)
  · have hpos : 0 < L := List.le_snd_of_mem_zipIdx hmem
    refine ⟨fun e hdecode => parseLine_literalInvalid hfind hdecode,
      fun pattern e hdecode hcompile hfault => parseLine_regexInvalid hfind hdecode hcompile hfault,
      fun pattern regex hdecode hcompile hs => ?_⟩
    subst hs
    exact parseLine_ownerEmpty hpos hfind hdecode hcompile
  · exact ⟨fun decoded h => parseFile_of_readText h,
      fun f h hf => ⟨parseFile_of_unreadable h hf, rfl⟩⟩

/-- Two texts and a file. Every line of the first reads, and its one annotated line gives the one
expected error, at line 2. The second line of the second text has an unclosed literal: reading
fails on it, with a literal error at line 2, though the first line reads. A source file that is
not there is a read failure, with no line. -/
theorem parseText_by_lines_sample :
    let good := "a\nf() // ERROR \"x\""
    let bad := "a // ERROR \"x\"\nb // ERROR \"y"
    let err : DirectiveError :=
      .fixture (.literalInvalid "x.go" 2 "b // ERROR \"y" (.invalidSyntax "\"y"))
    let w : Workspace := ⟨[]⟩
    ((∀ p ∈ (Text.splitOnChar good '\n').zipIdx 1,
        ∃ o, parseLine "x.go" "x.go" "vet" p.2 p.1 = .ok o) ∧
      ∃ xs, parseText good "x.go" "vet" none = .ok xs ∧
        List.Forall₂ (fun x p => Regex.compile x.pattern = .ok x.regex ∧
            parseLine "x.go" "x.go" "vet" p.2 p.1 = .ok (some x) ∧ x.sourceLine = p.2)
          xs [("f() // ERROR \"x\"", 2)]) ∧
    (("b // ERROR \"y", 2) ∈ (Text.splitOnChar bad '\n').zipIdx 1 ∧
      parseLine "x.go" "x.go" "vet" 2 "b // ERROR \"y" = .error err ∧
      (∀ p ∈ (Text.splitOnChar bad '\n').zipIdx 1, p.2 < 2 →
        ∃ o, parseLine "x.go" "x.go" "vet" p.2 p.1 = .ok o) ∧
      parseText bad "x.go" "vet" none = .error err) ∧
    (w.readText (normalPath "absent.go") = .error (.notFound "absent.go") ∧
      parseFile w "absent.go" "absent.go" "vet" =
        .error (.fixture (.readFailed "absent.go" (.notFound "absent.go"))) ∧
      (FixtureError.readFailed "absent.go" (.notFound "absent.go")).line = none) := by
  intro good bad err w
  have reads : ∀ n line, (parseLine "x.go" "x.go" "vet" n line).toBool = true →
      ∃ o, parseLine "x.go" "x.go" "vet" n line = .ok o := by
    intro n line h
    cases hl : parseLine "x.go" "x.go" "vet" n line with
    | error e => simp [hl, Except.toBool] at h
    | ok o => exact ⟨o, rfl⟩
  have hgood : (Text.splitOnChar good '\n').zipIdx 1 = [("a", 1), ("f() // ERROR \"x\"", 2)] := by
    decide +kernel
  have hall : ∀ p ∈ (Text.splitOnChar good '\n').zipIdx 1,
      ∃ o, parseLine "x.go" "x.go" "vet" p.2 p.1 = .ok o := by
    rw [hgood]
    intro p hp
    simp only [List.mem_cons, List.not_mem_nil, or_false] at hp
    rcases hp with rfl | rfl
    · exact reads _ _ (by decide +kernel)
    · exact reads _ _ (by decide +kernel)
  have hannotated : ((Text.splitOnChar good '\n').zipIdx 1).filter
      (fun p => (find? p.1.toList).isSome) = [("f() // ERROR \"x\"", 2)] := by
    decide +kernel
  obtain ⟨xs, hxs, hrel, -⟩ := (parseText_by_lines good "x.go" "vet" none).2.1 hall
  rw [hannotated] at hrel
  have hbad : (Text.splitOnChar bad '\n').zipIdx 1 =
      [("a // ERROR \"x\"", 1), ("b // ERROR \"y", 2)] := by
    decide +kernel
  have hmem : ("b // ERROR \"y", 2) ∈ (Text.splitOnChar bad '\n').zipIdx 1 := by
    rw [hbad]
    simp
  have hfail : parseLine "x.go" "x.go" "vet" 2 "b // ERROR \"y" = .error err := by
    have h : (parseLine "x.go" "x.go" "vet" 2 "b // ERROR \"y").map (fun _ => ()) = .error err := by
      decide +kernel
    exact map_eq_error h
  have hbefore : ∀ p ∈ (Text.splitOnChar bad '\n').zipIdx 1, p.2 < 2 →
      ∃ o, parseLine "x.go" "x.go" "vet" p.2 p.1 = .ok o := by
    rw [hbad]
    intro p hp hlt
    simp only [List.mem_cons, List.not_mem_nil, or_false] at hp
    rcases hp with rfl | rfl
    · exact reads _ _ (by decide +kernel)
    · simp at hlt
  have hread : w.readText (normalPath "absent.go") = .error (.notFound "absent.go") := by
    decide +kernel
  have hfile := ((parseText_by_lines good "absent.go" "vet" none).2.2.2.2 w "absent.go").2 _ hread
    (by decide)
  exact ⟨⟨hall, xs, hxs, hrel⟩,
    ⟨hmem, hfail, hbefore, (parseText_by_lines bad "x.go" "vet" none).2.2.1 _ _ _ hmem hfail hbefore⟩,
    hread, hfile⟩

/-- A text without owner fails on an annotated line whose literal and pattern are sound: the
expected error cannot be made, and no fixture error is raised either. -/
theorem parseText_ownerless_annotation_fails :
    parseText "f() // ERRORAUTO \"x\"" "" "" = .error (.expectation .ownerEmpty) := by
  have h : (parseText "f() // ERRORAUTO \"x\"" "" "").map (fun _ => ()) =
      .error (.expectation .ownerEmpty) := by
    decide +kernel
  exact map_eq_error h

end Directive

end DiagnosticCheck
