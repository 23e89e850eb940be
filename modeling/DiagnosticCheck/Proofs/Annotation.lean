import DiagnosticCheck.Directive
import DiagnosticCheck.Proofs.LineReading
import DiagnosticCheck.Proofs.Quoting
import Mathlib

/-!
# Printed annotations read back

An annotation is printed after the code of its line as `// K ` with one of the four keywords,
an optional checker name followed by a space, and the pattern as a double-quoted literal. This
module shows that reading a text of such lines gives one expected error per annotated line, in
line order, carrying the line number, the pattern, the kind of the keyword, the owner and the
checker (the printed one, else the default). The conditions are the ones under which the search
for markers cannot go wrong: no slash before the marker, none in the checker name, and no marker
of its own in the quoted pattern that disables the line or, under a keyword for the line itself,
asks for generated code. The owner must be named: an expected error without one cannot be made,
and reading then fails at the first annotated line.

The marker search is followed step by step: past a stretch without a slash it goes on unchanged,
at the printed marker it stops, and in the quoted pattern it finds nothing by assumption.
-/

namespace DiagnosticCheck.Expectation

lemma make?_ok (pattern : String) (regex : Regex.Pattern) {n : Nat} (hn : 0 < n) (auto : Bool)
    {owner : String} (ho : owner ≠ "") (checker : String) :
    ∃ x, make? pattern regex n auto owner checker = .ok x ∧ x.sourceLine = n ∧
      x.pattern = pattern ∧ x.auto = auto ∧ x.ownerFile = owner ∧ x.checkerName = checker := by
  have hpos : (0 : Int) < n := by omega
  simp only [make?, dif_pos hpos, dif_pos ho]
  exact ⟨_, rfl, by simp, rfl, rfl, rfl, rfl⟩

lemma make?_ownerEmpty (pattern : String) (regex : Regex.Pattern) {n : Nat} (hn : 0 < n)
    (auto : Bool) (checker : String) :
    make? pattern regex n auto "" checker = .error .ownerEmpty := by
  have hpos : (0 : Int) < n := by omega
  simp only [make?, dif_pos hpos, ne_eq, not_true_eq_false, dite_false]

end DiagnosticCheck.Expectation

namespace DiagnosticCheck.Directive

open Text

/-- The four keywords that open an annotation. -/
inductive Keyword where
  | error
  | gcError
  | errorAuto
  | gcErrorAuto
  deriving DecidableEq, Repr

namespace Keyword

/-- The spelling of a keyword. -/
def text : Keyword → String
  | error => "ERROR"
  | gcError => "GC_ERROR"
  | errorAuto => "ERRORAUTO"
  | gcErrorAuto => "GC_ERRORAUTO"

def auto : Keyword → Bool
  | error | gcError => false
  | errorAuto | gcErrorAuto => true

def marker (k : Keyword) : String :=
  "// " ++ k.text ++ " "

lemma marker_toList (k : Keyword) :
    k.marker.toList = '/' :: '/' :: ' ' :: (k.text.toList ++ [' ']) := by
  cases k <;> rfl

lemma slash_not_mem_text (k : Keyword) : '/' ∉ k.text.toList := by
  cases k <;> decide

lemma newline_not_mem_marker (k : Keyword) : '\n' ∉ k.marker.toList := by
  cases k <;> decide

end Keyword

/-- A source line as an annotation printer writes it: code alone, or code followed by an
annotation with its keyword, an optional checker name and the pattern. -/
inductive PrintedLine where
  | plain (code : String)
  | annotated (code : String) (keyword : Keyword) (checker : Option String) (pattern : String)
  deriving DecidableEq, Repr

namespace PrintedLine

def checkerField : Option String → String
  | some c => c ++ " "
  | none => ""

def render : PrintedLine → String
  | plain code => code
  | annotated code k checker p =>
    code ++ " " ++ k.marker ++ checkerField checker ++ Literal.quote p

def isAnnotated : PrintedLine → Bool
  | plain _ => false
  | annotated .. => true

/-- The characters a printed checker name may hold: no ASCII whitespace, double quote, backquote
or slash. -/
def isNameChar (x : Char) : Bool :=
  !Unicode.isAsciiSpace x && x != '"' && x != backquote && x != '/'

/-- The conditions under which a printed line reads back as written: no slash and no line feed in
the code; a non-empty checker name of name characters; a pattern with no lone surrogate that
compiles, and whose quoted form neither holds `////` nor, under a keyword for the annotated line
itself, a marker for generated code. -/
def WellFormed : PrintedLine → Prop
  | plain code => '/' ∉ code.toList ∧ '\n' ∉ code.toList
  | annotated code k checker p =>
    '/' ∉ code.toList ∧ '\n' ∉ code.toList ∧
      (∀ c ∈ checker, c ≠ "" ∧ c.toList.all isNameChar = true) ∧
      hasLoneSurrogate p = false ∧ (Regex.compile p).isOk = true ∧
      ¬ "////".toList <:+: (Literal.quote p).toList ∧
      (k.auto = false → ¬ "// ERRORAUTO ".toList <:+: (Literal.quote p).toList ∧
        ¬ "// GC_ERRORAUTO ".toList <:+: (Literal.quote p).toList)

instance : DecidablePred WellFormed
  | plain _ => inferInstanceAs (Decidable (_ ∧ _))
  | annotated .. => inferInstanceAs (Decidable (_ ∧ _))

/-- An expected error stands for the annotation of a numbered line: it sits at that line, with
the printed pattern, the keyword's kind, the given owner and the printed checker, else the
default one. -/
def Reads (shortName defaultChecker : String) (x : Expectation) : PrintedLine × Nat → Prop
  | (plain _, _) => False
  | (annotated _ k checker p, n) =>
    x.sourceLine = n ∧ x.pattern = p ∧ x.auto = k.auto ∧ x.ownerFile = shortName ∧
      x.checkerName = checker.getD defaultChecker

lemma isCheckerChar_of_isNameChar {x : Char} (h : isNameChar x = true) : isCheckerChar x = true := by
  simp only [isNameChar, Bool.and_eq_true, bne_iff_ne] at h
  simp [isCheckerChar, h.1.1.1, h.1.1.2, h.1.2]

lemma mem_checkerField {checker : Option String} {x : Char}
    (h : ∀ c ∈ checker, c ≠ "" ∧ c.toList.all isNameChar = true)
    (hx : x ∈ (checkerField checker).toList) : x = ' ' ∨ isNameChar x = true := by
  cases checker with
  | none => simp [checkerField] at hx
  | some c =>
    simp only [checkerField, String.toList_append, List.mem_append] at hx
    rcases hx with hx | hx
    · exact Or.inr (List.all_eq_true.1 (h c rfl).2 x hx)
    · exact Or.inl (by simpa using hx)

lemma slash_not_mem_checkerField {checker : Option String}
    (h : ∀ c ∈ checker, c ≠ "" ∧ c.toList.all isNameChar = true) :
    '/' ∉ (checkerField checker).toList := fun hx => by
  rcases mem_checkerField h hx with hx | hx
  · cases hx
  · exact absurd hx (by decide)

lemma newline_not_mem_checkerField {checker : Option String}
    (h : ∀ c ∈ checker, c ≠ "" ∧ c.toList.all isNameChar = true) :
    '\n' ∉ (checkerField checker).toList := fun hx => by
  rcases mem_checkerField h hx with hx | hx
  · cases hx
  · exact absurd hx (by decide)

lemma toList_render_annotated (code : String) (k : Keyword) (checker : Option String) (p : String) :
    (annotated code k checker p).render.toList =
      (code.toList ++ [' ']) ++ (k.marker.toList ++
        ((checkerField checker).toList ++ (Literal.quote p).toList)) := by
  simp [render]

lemma newline_not_mem_render {l : PrintedLine} (hwf : l.WellFormed) : '\n' ∉ l.render.toList := by
  cases l with
  | plain code => exact hwf.2
  | annotated code k checker p =>
    obtain ⟨-, hcode, hchecker, -⟩ := hwf
    rw [toList_render_annotated]
    simp only [List.mem_append, List.mem_singleton, not_or]
    exact ⟨⟨hcode, by decide⟩, k.newline_not_mem_marker, newline_not_mem_checkerField hchecker,
      Literal.newline_not_mem_quote p⟩

end PrintedLine

def printLines (lines : List PrintedLine) : String :=
  "\n".intercalate (lines.map PrintedLine.render)

section Markers

variable {ms : List (List Char)}

lemma afterMarker_cons_of_find?_none {c : Char} {cs : List Char}
    (h : ms.find? (·.isPrefixOf (c :: cs)) = none) :
    afterMarker ms (c :: cs) = afterMarker ms cs := by
  simp [afterMarker, h]

lemma afterMarker_append_of_find? {p tail : List Char} (hp : p ≠ [])
    (h : ms.find? (·.isPrefixOf (p ++ tail)) = some p) : afterMarker ms (p ++ tail) = some tail := by
  obtain ⟨c, cs, rfl⟩ := List.exists_cons_of_ne_nil hp
  simp only [List.cons_append] at h ⊢
  simp [afterMarker, h]

/-- Where no marker occurs, the search finds nothing. -/
lemma afterMarker_eq_none {s : List Char} (h : ∀ m ∈ ms, ¬ m <:+: s) : afterMarker ms s = none := by
  induction s with
  | nil =>
    have hne : [] ∉ ms := fun hm => h [] hm List.nil_infix
    simpa [afterMarker] using hne
  | cons c cs ih =>
    have hfind : ms.find? (·.isPrefixOf (c :: cs)) = none :=
      List.find?_eq_none.2 fun m hm hp => h m hm (List.isPrefixOf_iff_prefix.1 hp).isInfix
    rw [afterMarker_cons_of_find?_none hfind]
    exact ih fun m hm hinf => h m hm (hinf.trans (List.suffix_cons c cs).isInfix)

lemma exists_eq_slash_slash {m : List Char} (hm : m.take 2 = ['/', '/']) :
    ∃ r, m = '/' :: '/' :: r := by
  rcases m with _ | ⟨a, _ | ⟨b, r⟩⟩
  · cases hm
  · cases hm
  · simp only [List.take_succ_cons, List.take_zero, List.cons.injEq, and_true] at hm
    exact ⟨r, by rw [hm.1, hm.2]⟩

variable (hms : ∀ m ∈ ms, m.take 2 = ['/', '/'])
include hms

/-- A text that does not open with two slashes opens with no marker. -/
lemma find?_eq_none_of_take {s : List Char} (hs : s.take 2 ≠ ['/', '/']) :
    ms.find? (·.isPrefixOf s) = none := by
  refine List.find?_eq_none.2 fun m hm hp => hs ?_
  obtain ⟨r, rfl⟩ := exists_eq_slash_slash (hms m hm)
  obtain ⟨u, rfl⟩ := List.isPrefixOf_iff_prefix.1 hp
  rfl

/-- A stretch without a slash holds no start of a marker: the search goes past it. -/
lemma afterMarker_append_of_slash_free {pre : List Char} (hpre : '/' ∉ pre) (s : List Char) :
    afterMarker ms (pre ++ s) = afterMarker ms s := by
  induction pre with
  | nil => rfl
  | cons c pre ih =>
    have hc : c ≠ '/' := fun h => hpre (h ▸ List.mem_cons_self)
    rw [List.cons_append, afterMarker_cons_of_find?_none (find?_eq_none_of_take hms (by simp [hc]))]
    exact ih fun h => hpre (List.mem_cons_of_mem c h)

/-- When no marker starts at the first slash of a keyword's marker, the search goes on after it:
the second slash is followed by a space, and the keyword holds no slash. -/
lemma afterMarker_marker_of_find?_none (k : Keyword) {tail : List Char}
    (h : ms.find? (·.isPrefixOf (k.marker.toList ++ tail)) = none) :
    afterMarker ms (k.marker.toList ++ tail) = afterMarker ms tail := by
  rw [Keyword.marker_toList] at h ⊢
  simp only [List.cons_append] at h ⊢
  rw [afterMarker_cons_of_find?_none h,
    afterMarker_cons_of_find?_none (find?_eq_none_of_take hms (by simp)),
    afterMarker_cons_of_find?_none (find?_eq_none_of_take hms (by simp)),
    afterMarker_append_of_slash_free hms (by simpa using k.slash_not_mem_text)]

end Markers

lemma disabled_opens : ∀ m ∈ [disabled.toList], m.take 2 = ['/', '/'] := by decide

lemma autoMarkers_open : ∀ m ∈ autoMarkers, m.take 2 = ['/', '/'] := by decide

lemma lineMarkers_open : ∀ m ∈ lineMarkers, m.take 2 = ['/', '/'] := by decide

lemma find?_disabled_marker (k : Keyword) (tail : List Char) :
    [disabled.toList].find? (·.isPrefixOf (k.marker.toList ++ tail)) = none := by
  cases k <;> simp [disabled, Keyword.marker, Keyword.text, List.isPrefixOf]

lemma find?_autoMarkers_marker (k : Keyword) (tail : List Char) :
    autoMarkers.find? (·.isPrefixOf (k.marker.toList ++ tail)) =
      if k.auto then some k.marker.toList else none := by
  cases k <;> simp [autoMarkers, Keyword.marker, Keyword.text, Keyword.auto, List.isPrefixOf]

lemma find?_lineMarkers_marker {k : Keyword} (hk : k.auto = false) (tail : List Char) :
    lineMarkers.find? (·.isPrefixOf (k.marker.toList ++ tail)) = some k.marker.toList := by
  cases k <;> simp_all [lineMarkers, Keyword.marker, Keyword.text, Keyword.auto, List.isPrefixOf]

lemma find?_append_of_slash_free {pre : List Char} (hpre : '/' ∉ pre) (s : List Char) :
    find? (pre ++ s) = find? s := by
  simp only [find?, afterMarker_append_of_slash_free disabled_opens hpre,
    afterMarker_append_of_slash_free autoMarkers_open hpre,
    afterMarker_append_of_slash_free lineMarkers_open hpre]

lemma find?_of_slash_free {cs : List Char} (h : '/' ∉ cs) : find? cs = none := by
  rw [← List.append_nil cs, find?_append_of_slash_free h]
  rfl

/-- A keyword's marker opens an annotation of its kind, as long as what follows neither disables
the line nor, for a keyword of the line itself, holds a marker for generated code. -/
lemma find?_marker (k : Keyword) {tail : List Char}
    (hd : afterMarker [disabled.toList] tail = none)
    (ha : k.auto = false → afterMarker autoMarkers tail = none) :
    find? (k.marker.toList ++ tail) = some (k.auto, tail) := by
  have hne : k.marker.toList ≠ [] := by simp [Keyword.marker_toList]
  have hoff : afterMarker [disabled.toList] (k.marker.toList ++ tail) = none := by
    rw [afterMarker_marker_of_find?_none disabled_opens k (find?_disabled_marker k tail), hd]
  have hauto := find?_autoMarkers_marker k tail
  cases hk : k.auto with
  | true =>
    rw [hk, if_pos rfl] at hauto
    simp [find?, hoff, afterMarker_append_of_find? hne hauto]
  | false =>
    rw [hk, if_neg Bool.false_ne_true] at hauto
    simp [find?, hoff, afterMarker_marker_of_find?_none autoMarkers_open k hauto, ha hk,
      afterMarker_append_of_find? hne (find?_lineMarkers_marker hk tail)]

/-- An annotated line is found as one of its keyword's kind, and the rest after the marker is
the checker field and the quoted pattern. -/
lemma find?_render_annotated {code : String} {k : Keyword} {checker : Option String} {p : String}
    (hwf : (PrintedLine.annotated code k checker p).WellFormed) :
    find? (PrintedLine.annotated code k checker p).render.toList =
      some (k.auto, (PrintedLine.checkerField checker).toList ++ (Literal.quote p).toList) := by
  obtain ⟨hslash, -, hchecker, -, -, hdis, hauto⟩ := hwf
  have hpre : '/' ∉ code.toList ++ [' '] := by simpa using hslash
  have hfield := PrintedLine.slash_not_mem_checkerField hchecker
  rw [PrintedLine.toList_render_annotated, find?_append_of_slash_free hpre]
  refine find?_marker k ?_ fun hk => ?_
  · rw [afterMarker_append_of_slash_free disabled_opens hfield]
    exact afterMarker_eq_none (by simpa [disabled] using hdis)
  · rw [afterMarker_append_of_slash_free autoMarkers_open hfield]
    exact afterMarker_eq_none (by simpa [autoMarkers] using hauto hk)

lemma checkerPrefix_name {name : List Char} (hne : name ≠ [])
    (hname : ∀ x ∈ name, isCheckerChar x = true) (rest : List Char) :
    checkerPrefix (name ++ ' ' :: rest) = some (name, ' ' :: rest) := by
  obtain ⟨c, cs, rfl⟩ := List.exists_cons_of_ne_nil hne
  have hc : Unicode.isAsciiSpace c = false := by
    have := hname c List.mem_cons_self
    simp only [isCheckerChar, Bool.and_eq_true, Bool.not_eq_true'] at this
    exact this.1.1
  have hbody : (c :: cs ++ ' ' :: rest).dropWhile Unicode.isAsciiSpace = c :: cs ++ ' ' :: rest :=
    List.dropWhile_cons_of_neg (by simp [hc])
  have htake : (c :: cs ++ ' ' :: rest).takeWhile isCheckerChar = c :: cs := by
    rw [List.takeWhile_append_of_pos hname, List.takeWhile_cons_of_neg (by decide), List.append_nil]
  simp only [checkerPrefix, hbody, htake]
  simp

/-- A literal opening with a double quote carries no checker name. -/
lemma checkerPrefix_quoted (body : List Char) : checkerPrefix ('"' :: body) = none := by
  simp [checkerPrefix, List.takeWhile_cons_of_neg, isCheckerChar, Unicode.isAsciiSpace,
    Unicode.isAsciiSpaceCode]

lemma checkerPrefix_quote (p : String) : checkerPrefix (Literal.quote p).toList = none := by
  rw [Literal.quote_toList]
  exact checkerPrefix_quoted _

lemma stripChars_quoted (body : List Char) :
    stripChars ('"' :: (body ++ ['"'])) = '"' :: (body ++ ['"']) := by
  have hq : Unicode.isSpace '"' = false := by decide
  have hrev : ('"' :: (body ++ ['"'])).reverse = '"' :: (body.reverse ++ ['"']) := by simp
  rw [stripChars, List.dropWhile_cons_of_neg (by simp [hq]), hrev,
    List.dropWhile_cons_of_neg (by simp [hq]), ← hrev, List.reverse_reverse]

lemma stripChars_space_cons (cs : List Char) : stripChars (' ' :: cs) = stripChars cs := by
  have hs : Unicode.isSpace ' ' = true := by decide
  rw [stripChars, List.dropWhile_cons_of_pos hs]
  rfl

lemma strip_quote (p : String) : strip (Literal.quote p) = Literal.quote p := by
  rw [strip, Literal.quote_toList, stripChars_quoted, ← Literal.quote_toList, String.ofList_toList]

lemma strip_space_quote (p : String) :
    strip (String.ofList (' ' :: (Literal.quote p).toList)) = Literal.quote p :=
  calc strip (String.ofList (' ' :: (Literal.quote p).toList))
      = String.ofList (stripChars (Literal.quote p).toList) := by
        rw [strip, String.toList_ofList, stripChars_space_cons]
    _ = strip (Literal.quote p) := rfl
    _ = Literal.quote p := strip_quote p

section Lines

variable (origin defaultChecker : String)

/-- An annotated line reads as the expected error made from its pattern, its keyword's kind and
its checker, or else the default one; a failure to make it is the line's failure. -/
lemma parseLine_annotated {code : String} {k : Keyword} {checker : Option String} {p : String}
    (hwf : (PrintedLine.annotated code k checker p).WellFormed) {regex : Regex.Pattern}
    (hr : Regex.compile p = .ok regex) (shortName : String) (n : Nat) :
    parseLine origin shortName defaultChecker n (PrintedLine.annotated code k checker p).render =
      ((Expectation.make? p regex n k.auto shortName (checker.getD defaultChecker)).mapError
        DirectiveError.expectation).map some := by
  have hfind := find?_render_annotated hwf
  obtain ⟨-, -, hchecker, hsur, -⟩ := hwf
  cases checker with
  | none =>
    simp only [parseLine, hfind, PrintedLine.checkerField]
    simp only [String.toList_empty, List.nil_append, checkerPrefix_quote, String.ofList_toList,
      strip_quote, Literal.decode_quote hsur, hr, Option.getD_none]
    cases Expectation.make? p regex n k.auto shortName defaultChecker <;> rfl
  | some c =>
    obtain ⟨hne, hchars⟩ := hchecker c rfl
    have hname := checkerPrefix_name (by simpa using hne)
      (fun x hx => PrintedLine.isCheckerChar_of_isNameChar (List.all_eq_true.1 hchars x hx))
      (Literal.quote p).toList
    have hrest : c.toList ++ " ".toList ++ (Literal.quote p).toList =
        c.toList ++ ' ' :: (Literal.quote p).toList := by
      rw [List.append_assoc]
      rfl
    simp only [parseLine, hfind, PrintedLine.checkerField, String.toList_append]
    rw [hrest, hname]
    simp only [String.ofList_toList, strip_space_quote, Literal.decode_quote hsur, hr,
      Option.getD_some]
    cases Expectation.make? p regex n k.auto shortName c <;> rfl

/-- A plain line without a slash carries no annotation, whoever owns it. -/
lemma parseLine_plain {code : String} (h : '/' ∉ code.toList) (shortName : String) (n : Nat) :
    parseLine origin shortName defaultChecker n (PrintedLine.plain code).render = .ok none := by
  simp [parseLine, PrintedLine.render, find?_of_slash_free h]

lemma exists_compile_eq_ok {code : String} {k : Keyword} {checker : Option String} {p : String}
    (hwf : (PrintedLine.annotated code k checker p).WellFormed) :
    ∃ regex, Regex.compile p = .ok regex := by
  obtain ⟨-, -, -, -, hcomp, -⟩ := hwf
  cases hr : Regex.compile p with
  | error e => simp [hr, Except.isOk, Except.toBool] at hcomp
  | ok regex => exact ⟨regex, rfl⟩

/-- A well-formed line read at a line number from 1 on, for a named owner, gives the expected error
its annotation stands for, or nothing when it has none. -/
lemma parseLine_render {l : PrintedLine} (hwf : l.WellFormed) {n : Nat} (hn : 0 < n)
    {shortName : String} (hs : shortName ≠ "") :
    ∃ o, parseLine origin shortName defaultChecker n l.render = .ok o ∧
      List.Forall₂ (PrintedLine.Reads shortName defaultChecker) o.toList
        ([(l, n)].filter (·.1.isAnnotated)) := by
  cases l with
  | plain code =>
    exact ⟨none, parseLine_plain origin defaultChecker hwf.1 shortName n, by
      simp [PrintedLine.isAnnotated]⟩
  | annotated code k checker p =>
    obtain ⟨regex, hr⟩ := exists_compile_eq_ok hwf
    obtain ⟨x, hx, hline, hpat, hauto, howner, hchecker⟩ :=
      Expectation.make?_ok p regex hn k.auto hs (checker.getD defaultChecker)
    refine ⟨some x, by rw [parseLine_annotated origin defaultChecker hwf hr, hx]; rfl, ?_⟩
    simp only [PrintedLine.isAnnotated, List.filter_cons_of_pos, List.filter_nil,
      Option.toList_some]
    exact .cons ⟨hline, hpat, hauto, howner, hchecker⟩ .nil

lemma parseLine_render_ownerEmpty {code : String} {k : Keyword} {checker : Option String}
    {p : String} (hwf : (PrintedLine.annotated code k checker p).WellFormed) {n : Nat} (hn : 0 < n) :
    parseLine origin "" defaultChecker n (PrintedLine.annotated code k checker p).render =
      .error (.expectation .ownerEmpty) := by
  obtain ⟨regex, hr⟩ := exists_compile_eq_ok hwf
  rw [parseLine_annotated origin defaultChecker hwf hr, Expectation.make?_ownerEmpty p regex hn]
  rfl

/-- Reading well-formed printed lines from line `n` on, for a named owner, gives one expected
error per annotated line, in order, each standing for its line's annotation. -/
lemma parseLines_render {lines : List PrintedLine} (hwf : ∀ l ∈ lines, l.WellFormed)
    {shortName : String} (hs : shortName ≠ "") {n : Nat} (hn : 0 < n) :
    ∃ xs, parseLines origin shortName defaultChecker n (lines.map PrintedLine.render) = .ok xs ∧
      List.Forall₂ (PrintedLine.Reads shortName defaultChecker) xs
        ((lines.zipIdx n).filter (·.1.isAnnotated)) := by
  induction lines generalizing n with
  | nil => exact ⟨[], rfl, .nil⟩
  | cons l rest ih =>
    obtain ⟨o, ho, hro⟩ := parseLine_render origin defaultChecker (hwf l List.mem_cons_self) hn hs
    obtain ⟨xs, hxs, hrxs⟩ :=
      ih (fun l' hl' => hwf l' (List.mem_cons_of_mem l hl')) (Nat.succ_pos n)
    refine ⟨o.toList ++ xs, ?_, ?_⟩
    · rw [List.map_cons, parseLines, ho, hxs]
      rfl
    · rw [List.zipIdx_cons, ← List.singleton_append, List.filter_append]
      exact List.rel_append hro hrxs

lemma parseLines_render_ownerEmpty {lines : List PrintedLine} (hwf : ∀ l ∈ lines, l.WellFormed)
    {n : Nat} (hn : 0 < n) (h : ∃ l ∈ lines, l.isAnnotated = true) :
    parseLines origin "" defaultChecker n (lines.map PrintedLine.render) =
      .error (.expectation .ownerEmpty) := by
  induction lines generalizing n with
  | nil =>
    obtain ⟨l, hl, -⟩ := h
    cases hl
  | cons l rest ih =>
    have hwf' : ∀ l' ∈ rest, l'.WellFormed := fun l' hl' => hwf l' (List.mem_cons_of_mem l hl')
    cases l with
    | plain code =>
      have hrest : ∃ l' ∈ rest, l'.isAnnotated = true := by
        obtain ⟨l', hl', ha⟩ := h
        rcases List.mem_cons.1 hl' with rfl | hl'
        · cases ha
        · exact ⟨l', hl', ha⟩
      rw [List.map_cons, parseLines,
        parseLine_plain origin defaultChecker (hwf _ List.mem_cons_self).1,
        ih hwf' (Nat.succ_pos n) hrest]
      rfl
    | annotated code k checker p =>
      rw [List.map_cons, parseLines,
        parseLine_render_ownerEmpty origin defaultChecker (hwf _ List.mem_cons_self) hn]
      rfl

end Lines

lemma splitOnChar_printLines {lines : List PrintedLine} (hwf : ∀ l ∈ lines, l.WellFormed)
    (hne : lines ≠ []) : Text.splitOnChar (printLines lines) '\n' = lines.map PrintedLine.render := by
  have hlf : ∀ cs ∈ (lines.map PrintedLine.render).map String.toList, '\n' ∉ cs := by
    intro cs hcs
    obtain ⟨l, hl, rfl⟩ := List.mem_map.1 (List.map_map ▸ hcs)
    exact PrintedLine.newline_not_mem_render (hwf l hl)
  rw [Text.splitOnChar, printLines, String.toList_intercalate, show "\n".toList = ['\n'] from rfl,
    List.splitOn_intercalate '\n' hlf (by simpa using hne), List.map_map]
  simp

/-- Reading a text of well-formed printed lines gives, for a named owner, exactly one expected
error per annotated line, in line order, each at its line with the printed pattern, the kind of
its keyword, the owner and the printed checker or else the default one. Without an owner the
reading fails as soon as a line is annotated. -/
theorem parseText_printLines (lines : List PrintedLine) (hwf : ∀ l ∈ lines, l.WellFormed)
    (shortName defaultChecker : String) (source : Option String) :
    (shortName ≠ "" →
      ∃ xs, parseText (printLines lines) shortName defaultChecker source = .ok xs ∧
        List.Forall₂ (PrintedLine.Reads shortName defaultChecker) xs
          ((lines.zipIdx 1).filter (·.1.isAnnotated))) ∧
    (shortName = "" → (∃ l ∈ lines, l.isAnnotated = true) →
      parseText (printLines lines) shortName defaultChecker source =
        .error (.expectation .ownerEmpty)) := by
  by_cases hnil : lines = []
  · subst hnil
    exact ⟨fun _ => ⟨[], rfl, .nil⟩, fun _ ⟨l, hl, _⟩ => absurd hl List.not_mem_nil⟩
  · refine ⟨fun hs => ?_, fun hs h => ?_⟩
    · rw [parseText_eq_parseLines, splitOnChar_printLines hwf hnil]
      exact parseLines_render _ defaultChecker hwf hs Nat.one_pos
    · subst hs
      rw [parseText_eq_parseLines, splitOnChar_printLines hwf hnil]
      exact parseLines_render_ownerEmpty _ defaultChecker hwf Nat.one_pos h

theorem parseText_printLines_sample :
    let lines := [PrintedLine.plain "package p",
      .annotated "\tx := f()" .error (some "vet") "boom",
      .annotated "var y int" .gcErrorAuto none "a.*b"]
    (∀ l ∈ lines, l.WellFormed) ∧
      ("x.go" ≠ "" → ∃ xs, parseText (printLines lines) "x.go" "lint" none = .ok xs ∧
        List.Forall₂ (PrintedLine.Reads "x.go" "lint") xs
          ((lines.zipIdx 1).filter (·.1.isAnnotated))) ∧
      ("x.go" = "" → (∃ l ∈ lines, l.isAnnotated = true) →
        parseText (printLines lines) "x.go" "lint" none = .error (.expectation .ownerEmpty)) :=
  ⟨by decide +kernel, parseText_printLines _ (by decide +kernel) "x.go" "lint" none⟩

/-- An annotated line owned by no file is not read: the expected error cannot be made. -/
theorem parseText_without_owner_fails :
    printLines [.annotated "x" .error none "a"] = "x // ERROR \"a\"" ∧
      parseText (printLines [.annotated "x" .error none "a"]) "" "" =
        .error (.expectation .ownerEmpty) := by
  have hwf : ∀ l ∈ [PrintedLine.annotated "x" .error none "a"], l.WellFormed := by
    decide +kernel
  refine ⟨by decide, ?_⟩
  rw [parseText_eq_parseLines, splitOnChar_printLines hwf (List.cons_ne_nil _ _)]
  exact parseLines_render_ownerEmpty "" "" hwf Nat.one_pos ⟨_, List.mem_cons_self, rfl⟩

end DiagnosticCheck.Directive
