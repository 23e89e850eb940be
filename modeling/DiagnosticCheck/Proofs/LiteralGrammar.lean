import DiagnosticCheck.Proofs.Quoting
import Mathlib

/-!
# The grammar of string literals

A literal is a raw text between backquotes, or a body between double or single quotes read as a
sequence of tokens: a character that is neither the quote nor a backslash stands for itself, and
an escape (a backslash and a named letter, the quote itself, two, four or eight hexadecimal
digits after `x`, `u` or `U`, or three octal digits) stands for one character. This module states
that grammar as inductive relations, apart from the decoder, and shows that decoding succeeds
exactly on the literals of the grammar, with the value the grammar gives. A text that is no
literal is refused, and one whose outer shape is wrong is refused as invalid syntax before
anything else is looked at.
-/

namespace DiagnosticCheck.Literal

open Text

def namedEscapes : List (Char × Char) :=
  [('a', '\x07'), ('b', '\x08'), ('f', '\x0c'), ('n', '\n'), ('r', '\r'), ('t', '\t'),
    ('v', '\x0b'), ('\\', '\\')]

/-- One token of the body of a literal enclosed by `q`: the characters it spans and the character
it stands for. -/
inductive Token (q : Char) : List Char → Char → Prop
  | plain {c : Char} : c ≠ q → c ≠ '\\' → Token q [c] c
  | named {e v : Char} : (e, v) ∈ namedEscapes → Token q ['\\', e] v
  | quote : Token q ['\\', q] q
  | byte {ds : List Char} {n : Nat} : ds.length = 2 → hexNumber ds = some n →
      Token q ('\\' :: 'x' :: ds) (Char.ofNat n)
  | wide {letter : Char} {ds : List Char} {n : Nat} :
      (letter = 'u' ∧ ds.length = 4 ∨ letter = 'U' ∧ ds.length = 8) → hexNumber ds = some n →
      n ≤ 0x10FFFF → isSurrogate n = false → Token q ('\\' :: letter :: ds) (Char.ofNat n)
  | octal {ds : List Char} : ds.length = 3 → ds.all isOctalDigit = true →
      octalNumber ds ≤ 0xFF → Token q ('\\' :: ds) (Char.ofNat (octalNumber ds))

/-- A body of a `q` literal read as tokens, with the characters they stand for. -/
inductive Tokens (q : Char) : List Char → List Char → Prop
  | nil : Tokens q [] []
  | cons {cs rest : List Char} {v : Char} {vs : List Char} :
      Token q cs v → Tokens q rest vs → Tokens q (cs ++ rest) (v :: vs)

/-- The literal `t` stands for the text `v`: a raw literal for its body without carriage
returns, a quoted one for the characters of its tokens, exactly one of them between single
quotes. -/
inductive Spells : String → String → Prop
  | raw {b : List Char} : backquote ∉ b →
      Spells (String.ofList (backquote :: b ++ [backquote])) (String.ofList (b.filter (· ≠ '\r')))
  | quoted {q : Char} {b vs : List Char} : (q = '"' ∨ q = '\'') → '\n' ∉ b → Tokens q b vs →
      (q = '\'' → vs.length = 1) → Spells (String.ofList (q :: b ++ [q])) (String.ofList vs)

/-- Whether a text has the outer shape of a literal: at least two characters, the first and the
last the same quote character. -/
def Enclosed (t : String) : Prop :=
  ∃ q b, t.toList = q :: b ++ [q] ∧ (q = '"' ∨ q = '\'' ∨ q = backquote)

/-- How the token at the front of a `q` literal's body fails, with the error it is refused by. -/
inductive Fault (q : Char) : List Char → LiteralError → Prop
  | unescapedQuote {rest : List Char} : Fault q (q :: rest) (.unescapedQuote q)
  | endsInsideEscape : Fault q ['\\'] .endsInsideEscape
  | otherQuote {e : Char} {rest : List Char} : (e = '\'' ∨ e = '"') → e ≠ q →
      Fault q ('\\' :: e :: rest) (.escapeNotAllowed e q)
  | shortHex {e : Char} {w : Nat} {rest : List Char} : hexWidth e = some w →
      (hexNumber (rest.take w) = none ∨ rest.length < w) →
      Fault q ('\\' :: e :: rest) (.invalidHexEscape e)
  | badCodePoint {e : Char} {ds rest : List Char} {n : Nat} :
      (e = 'u' ∧ ds.length = 4 ∨ e = 'U' ∧ ds.length = 8) → hexNumber ds = some n →
      (0x10FFFF < n ∨ isSurrogate n = true) →
      Fault q ('\\' :: e :: (ds ++ rest)) (.invalidCodePoint e)
  | shortOctal {d : Char} {rest : List Char} : isOctalDigit d = true →
      ¬ (2 ≤ rest.length ∧ (rest.take 2).all isOctalDigit = true) →
      Fault q ('\\' :: d :: rest) .invalidOctalEscape
  | octalRange {ds rest : List Char} : ds.length = 3 → ds.all isOctalDigit = true →
      0xFF < octalNumber ds → Fault q ('\\' :: (ds ++ rest)) .octalOutOfRange
  | unknown {e : Char} {rest : List Char} : simpleEscape e = none → hexWidth e = none →
      isOctalDigit e = false → Fault q ('\\' :: e :: rest) (.unknownEscape e)

/-- Why a text is refused, the checks taken in order: the outer shape, a backquote inside a raw
literal, a line feed inside a quoted one, the first token of a quoted body that fails, and last
a single-quoted literal that does not stand for exactly one character. -/
inductive Refused : String → LiteralError → Prop
  | shape {t : String} : ¬ Enclosed t → Refused t (.invalidSyntax t)
  | rawBackquote {b : List Char} : backquote ∈ b →
      Refused (String.ofList (backquote :: b ++ [backquote]))
        (.invalidSyntax (String.ofList (backquote :: b ++ [backquote])))
  | lineFeed {q : Char} {b : List Char} : (q = '"' ∨ q = '\'') → '\n' ∈ b →
      Refused (String.ofList (q :: b ++ [q])) (.invalidSyntax (String.ofList (q :: b ++ [q])))
  | token {q : Char} {pre rest vs : List Char} {err : LiteralError} : (q = '"' ∨ q = '\'') →
      '\n' ∉ pre ++ rest → Tokens q pre vs → Fault q rest err →
      Refused (String.ofList (q :: (pre ++ rest) ++ [q])) err
  | notOneChar {b vs : List Char} : '\n' ∉ b → Tokens '\'' b vs → vs.length ≠ 1 →
      Refused (String.ofList ('\'' :: b ++ ['\'']))
        (.invalidSyntax (String.ofList ('\'' :: b ++ ['\''])))

section Shape

lemma shape_eq_some {cs : List Char} {q : Char} {body : List Char} :
    shape cs = some (q, body) ↔ cs = q :: body ++ [q] ∧ (q = '"' ∨ q = '\'' ∨ q = backquote) := by
  constructor
  · intro h
    unfold shape at h
    split at h
    · cases h
    · split at h
      · cases h
      · rename_i l hl
        split_ifs at h with hq
        cases h
        obtain ⟨rfl, hq⟩ := hq
        obtain ⟨ys, rfl⟩ := List.getLast?_eq_some_iff.1 hl
        simp [hq]
  · rintro ⟨rfl, hq⟩
    exact shape_enclosed hq body

lemma shape_eq_none {t : String} (h : ¬ Enclosed t) : shape t.toList = none := by
  cases hs : shape t.toList with
  | none => rfl
  | some qb =>
    obtain ⟨q, body⟩ := qb
    exact absurd ⟨q, body, shape_eq_some.1 hs⟩ h

end Shape

section Steps

variable {q : Char}

lemma decodeBody_plain {c : Char} (hcq : c ≠ q) (hcb : c ≠ '\\') (rest : List Char) :
    decodeBody q (c :: rest) = (decodeBody q rest).map (c :: ·) := by
  rw [decodeBody.eq_def]
  simp [hcq, hcb]

lemma decodeBody_escape_ok (hq : q ≠ '\\') {e v : Char} {more : List Char} {n : Nat}
    (h : decodeEscape q e more = .ok (v, n)) :
    decodeBody q ('\\' :: e :: more) = (decodeBody q (more.drop n)).map (v :: ·) := by
  rw [decodeBody]
  simp [hq.symm, h]

lemma decodeBody_escape_error (hq : q ≠ '\\') {e : Char} {more : List Char} {err : LiteralError}
    (h : decodeEscape q e more = .error err) : decodeBody q ('\\' :: e :: more) = .error err := by
  rw [decodeBody]
  simp [hq.symm, h]

end Steps

section Letters

lemma simpleEscape_of_named {e v : Char} (h : (e, v) ∈ namedEscapes) :
    simpleEscape e = some v ∧ e ≠ '\'' ∧ e ≠ '"' := by
  simp only [namedEscapes, List.mem_cons, Prod.mk.injEq, List.not_mem_nil, or_false] at h
  rcases h with ⟨rfl, rfl⟩ | ⟨rfl, rfl⟩ | ⟨rfl, rfl⟩ | ⟨rfl, rfl⟩ | ⟨rfl, rfl⟩ | ⟨rfl, rfl⟩ |
    ⟨rfl, rfl⟩ | ⟨rfl, rfl⟩ <;> decide

lemma named_of_simpleEscape {e v : Char} (h : simpleEscape e = some v) :
    (e, v) ∈ namedEscapes ∨ e = v ∧ (e = '\'' ∨ e = '"') := by
  unfold simpleEscape at h
  split at h <;> cases h <;> decide

lemma hexWidth_cases {e : Char} {w : Nat} (h : hexWidth e = some w) :
    e = 'x' ∧ w = 2 ∨ e = 'u' ∧ w = 4 ∨ e = 'U' ∧ w = 8 := by
  unfold hexWidth at h
  split at h <;> cases h <;> simp

lemma escapes_of_octal {c : Char} (h : isOctalDigit c = true) :
    simpleEscape c = none ∧ hexWidth c = none := by
  have hc : c = Char.ofNat c.toNat := (Char.ofNat_toNat c).symm
  have hr : 48 ≤ c.toNat ∧ c.toNat ≤ 55 := by
    simp only [isOctalDigit, Bool.and_eq_true, decide_eq_true_eq] at h
    exact ⟨h.1, h.2⟩
  obtain ⟨hlo, hhi⟩ := hr
  interval_cases hn : c.toNat <;> rw [hc] <;> decide

end Letters

section Tokens

variable {q : Char}

lemma Token.shape {cs : List Char} {v : Char} (h : Token q cs v) :
    cs = [v] ∧ v ≠ q ∧ v ≠ '\\' ∨ ∃ e ds, cs = '\\' :: e :: ds := by
  cases h with
  | plain hcq hcb => exact .inl ⟨rfl, hcq, hcb⟩
  | @octal ds hlen _ _ =>
    cases ds with
    | nil => simp at hlen
    | cons d ds => exact .inr ⟨d, ds, rfl⟩
  | _ => exact .inr ⟨_, _, rfl⟩

lemma decodeEscape_token (hq : q = '"' ∨ q = '\'') {e v : Char} {ds : List Char}
    (h : Token q ('\\' :: e :: ds) v) (rest : List Char) :
    decodeEscape q e (ds ++ rest) = .ok (v, ds.length) := by
  cases h with
  | named hn =>
    obtain ⟨hs, hsq, hdq⟩ := simpleEscape_of_named hn
    simp [decodeEscape, hs, hsq, hdq]
  | quote =>
    have hs : simpleEscape q = some q := by rcases hq with rfl | rfl <;> rfl
    rcases hq with rfl | rfl <;> simp [decodeEscape, hs]
  | byte hlen hn =>
    simp [decodeEscape, simpleEscape, hexWidth, List.take_left' hlen, hn, hlen]
  | wide hletter hn hmax hsur =>
    have hbound : ¬ 0x10FFFF < _ := Nat.not_lt.2 hmax
    rcases hletter with ⟨rfl, hlen⟩ | ⟨rfl, hlen⟩ <;>
      simp [decodeEscape, simpleEscape, hexWidth, List.take_left' hlen, hn, hlen, hbound, hsur]
  | octal hlen hall hmax =>
    have hd : isOctalDigit e = true := by simp_all
    obtain ⟨hs, hw⟩ := escapes_of_octal hd
    have hbound : ¬ 0xFF < octalNumber (e :: ds) := Nat.not_lt.2 hmax
    have hlen' : ds.length = 2 := by simpa using hlen
    simp [decodeEscape, hs, hw, hd, List.take_left' hlen', hlen', hall, hbound]

lemma decodeBody_token (hq : q = '"' ∨ q = '\'') {cs : List Char} {v : Char}
    (h : Token q cs v) (rest : List Char) :
    decodeBody q (cs ++ rest) = (decodeBody q rest).map (v :: ·) := by
  have hbq : q ≠ '\\' := by rcases hq with rfl | rfl <;> decide
  rcases h.shape with ⟨rfl, hvq, hvb⟩ | ⟨e, ds, rfl⟩
  · exact decodeBody_plain hvq hvb rest
  · rw [List.cons_append, List.cons_append,
      decodeBody_escape_ok hbq (decodeEscape_token hq h rest), List.drop_left]

lemma decodeBody_tokens (hq : q = '"' ∨ q = '\'') {b vs : List Char} (h : Tokens q b vs) :
    decodeBody q b = .ok vs := by
  induction h with
  | nil => rw [decodeBody]
  | cons htoken _ ih => rw [decodeBody_token hq htoken, ih]; rfl

lemma token_of_decodeEscape (hq : q = '"' ∨ q = '\'') {e v : Char} {more : List Char} {n : Nat}
    (h : decodeEscape q e more = .ok (v, n)) :
    n ≤ more.length ∧ Token q ('\\' :: e :: more.take n) v := by
  unfold decodeEscape at h
  split at h
  · rename_i v' hs
    split_ifs at h with hbad
    cases h
    refine ⟨Nat.zero_le _, ?_⟩
    rcases named_of_simpleEscape hs with hn | ⟨rfl, he⟩
    · exact .named hn
    · have : e = q := by rcases he with rfl | rfl <;> rcases hq with rfl | rfl <;> simp_all
      subst this
      exact .quote
  · split at h
    · rename_i w hw
      dsimp only at h
      split at h
      · cases h
      · rename_i n' hn
        split_ifs at h with hlen hcp
        obtain ⟨rfl, rfl⟩ : Char.ofNat n' = v ∧ w = n := by simpa using h
        have hw' : w ≤ more.length := by simp at hlen; omega
        refine ⟨hw', ?_⟩
        have hds : (more.take w).length = w := by simpa using hw'
        rcases hexWidth_cases hw with ⟨rfl, rfl⟩ | ⟨rfl, rfl⟩ | ⟨rfl, rfl⟩
        · exact .byte hds hn
        all_goals
          have hcp' : n' ≤ 0x10FFFF ∧ isSurrogate n' = false := by simp_all
          exact .wide (by simp [hds]) hn hcp'.1 hcp'.2
    · dsimp only at h
      split_ifs at h with hoct hdigits hrange
      obtain ⟨rfl, rfl⟩ : Char.ofNat (octalNumber (e :: more.take 2)) = v ∧ 2 = n := by
        simpa using h
      simp only [ne_eq, Bool.not_eq_eq_eq_not, Bool.not_true, not_or, Bool.not_eq_false,
        not_not] at hdigits
      have hlen : (e :: more.take 2).length = 3 := hdigits.1
      refine ⟨by simp at hlen; omega, .octal hlen hdigits.2 (Nat.not_lt.1 hrange)⟩

lemma tokens_of_decodeBody (hq : q = '"' ∨ q = '\'') {b vs : List Char}
    (h : decodeBody q b = .ok vs) : Tokens q b vs := by
  fun_induction decodeBody q b generalizing vs with
  | case1 => cases h; exact .nil
  | case2 => cases h
  | case3 c rest hcq hcb ih =>
    cases hr : decodeBody q rest with
    | error err => simp [hr, Except.map] at h
    | ok ws =>
      obtain rfl : c :: ws = vs := by simpa [hr, Except.map] using h
      show Tokens q ([c] ++ rest) (c :: ws)
      exact .cons (.plain hcq hcb) (ih hr)
  | case4 => cases h
  | case5 => cases h
  | case6 c _ hcb e more v n hv ih =>
    obtain rfl : c = '\\' := not_not.1 hcb
    cases hr : decodeBody q (more.drop n) with
    | error err => simp [hr, Except.map] at h
    | ok ws =>
      obtain rfl : v :: ws = vs := by simpa [hr, Except.map] using h
      have htoken := (token_of_decodeEscape hq hv).2
      rw [← List.take_append_drop n more]
      exact .cons htoken (ih hr)

end Tokens

section Faults

variable {q : Char}

lemma decodeBody_fault (hq : q = '"' ∨ q = '\'') {rest : List Char} {err : LiteralError}
    (h : Fault q rest err) : decodeBody q rest = .error err := by
  have hbq : q ≠ '\\' := by rcases hq with rfl | rfl <;> decide
  cases h with
  | unescapedQuote => rw [decodeBody.eq_def]; simp
  | endsInsideEscape => rw [decodeBody]; simp [hbq.symm]
  | otherQuote he heq =>
    apply decodeBody_escape_error hbq
    rcases he with rfl | rfl <;> rcases hq with rfl | rfl <;> simp_all [decodeEscape, simpleEscape]
  | @shortHex e w rest hw hbad =>
    apply decodeBody_escape_error hbq
    have hs : simpleEscape e = none := by
      rcases hexWidth_cases hw with ⟨rfl, -⟩ | ⟨rfl, -⟩ | ⟨rfl, -⟩ <;> rfl
    simp only [decodeEscape, hs, hw]
    rcases hbad with hbad | hbad
    · simp [hbad]
    · split
      · rfl
      · rw [if_pos (by simp; omega)]
  | badCodePoint hletter hn hcp =>
    apply decodeBody_escape_error hbq
    rcases hletter with ⟨rfl, hlen⟩ | ⟨rfl, hlen⟩ <;>
      simp [decodeEscape, simpleEscape, hexWidth, List.take_left' hlen, hn, hlen, hcp]
  | shortOctal hd hbad =>
    apply decodeBody_escape_error hbq
    obtain ⟨hs, hw⟩ := escapes_of_octal hd
    simp only [decodeEscape, hs, hw, hd, if_true]
    rw [if_pos]
    by_contra hok
    simp only [List.length_cons, List.length_take, ne_eq, Bool.not_eq_eq_eq_not, Bool.not_true,
      not_or, Bool.not_eq_false, List.all_cons, hd, Bool.true_and, not_not] at hok
    exact hbad ⟨by omega, hok.2⟩
  | @octalRange ds rest hlen hall hrange =>
    cases ds with
    | nil => simp at hlen
    | cons d ds' =>
      apply decodeBody_escape_error hbq
      have hd : isOctalDigit d = true := by simp_all
      obtain ⟨hs, hw⟩ := escapes_of_octal hd
      have hlen₂ : ds'.length = 2 := by simpa using hlen
      simp [decodeEscape, hs, hw, hd, List.take_left' hlen₂, hlen₂, hall, hrange]
  | unknown hs hw ho =>
    apply decodeBody_escape_error hbq
    simp [decodeEscape, hs, hw, ho]

lemma decodeBody_tokens_fault (hq : q = '"' ∨ q = '\'') {pre rest vs : List Char}
    {err : LiteralError} (htoks : Tokens q pre vs) (hfault : Fault q rest err) :
    decodeBody q (pre ++ rest) = .error err := by
  induction htoks with
  | nil => exact decodeBody_fault hq hfault
  | cons htoken _ ih => rw [List.append_assoc, decodeBody_token hq htoken, ih]; rfl

lemma fault_of_decodeEscape (hq : q = '"' ∨ q = '\'') {e : Char} {more : List Char}
    {err : LiteralError} (h : decodeEscape q e more = .error err) :
    Fault q ('\\' :: e :: more) err := by
  unfold decodeEscape at h
  split at h
  · split_ifs at h with hbad
    cases h
    refine .otherQuote ?_ ?_ <;> rcases hbad with ⟨rfl, rfl⟩ | ⟨rfl, rfl⟩ <;> simp
  · rename_i hs
    split at h
    · rename_i w hw
      dsimp only at h
      split at h
      · cases h
        exact .shortHex hw (.inl ‹_›)
      · rename_i n hn
        split_ifs at h with hlen hcp
        · cases h
          exact .shortHex hw (.inr (by simp at hlen; omega))
        · cases h
          -- the digits are all there, so the code point is what is wrong
          have hds : (more.take w).length = w := by simpa using hlen
          rw [← List.take_append_drop w more]
          have hx : e ≠ 'x' := hcp.1
          rcases hexWidth_cases hw with ⟨rfl, rfl⟩ | ⟨rfl, rfl⟩ | ⟨rfl, rfl⟩
          · exact absurd rfl hx
          all_goals exact .badCodePoint (by simp [hds]) hn (by simpa using hcp.2)
    · rename_i hw
      dsimp only at h
      split_ifs at h with hoct hdigits hrange
      · cases h
        refine .shortOctal hoct fun hboth => ?_
        obtain ⟨hlen, hall⟩ := hboth
        simp [hoct, hall] at hdigits
        omega
      · cases h
        simp only [ne_eq, Bool.not_eq_eq_eq_not, Bool.not_true, not_or, Bool.not_eq_false,
          not_not] at hdigits
        rw [← List.take_append_drop 2 more]
        show Fault q ('\\' :: ((e :: more.take 2) ++ more.drop 2)) _
        exact .octalRange hdigits.1 hdigits.2 (by simpa using hrange)
      · cases h
        exact .unknown hs hw (by simpa using hoct)

lemma fault_of_decodeBody (hq : q = '"' ∨ q = '\'') {b : List Char} {err : LiteralError}
    (h : decodeBody q b = .error err) :
    ∃ pre rest vs, b = pre ++ rest ∧ Tokens q pre vs ∧ Fault q rest err := by
  fun_induction decodeBody q b with
  | case1 => cases h
  | case2 rest =>
    cases h
    exact ⟨[], _, [], rfl, .nil, .unescapedQuote⟩
  | case3 c rest hcq hcb ih =>
    cases hr : decodeBody q rest with
    | ok ws => simp [hr, Except.map] at h
    | error err' =>
      obtain rfl : err' = err := by simpa [hr, Except.map] using h
      obtain ⟨pre, rest', vs, rfl, htoks, hfault⟩ := ih hr
      have htoks' : Tokens q ([c] ++ pre) (c :: vs) := .cons (.plain hcq hcb) htoks
      exact ⟨c :: pre, rest', c :: vs, rfl, htoks', hfault⟩
  | case4 c hcq hcb =>
    cases h
    obtain rfl : c = '\\' := not_not.1 hcb
    exact ⟨[], _, [], rfl, .nil, .endsInsideEscape⟩
  | case5 c _ hcb e more err' hv =>
    cases h
    obtain rfl : c = '\\' := not_not.1 hcb
    exact ⟨[], _, [], rfl, .nil, fault_of_decodeEscape hq hv⟩
  | case6 c _ hcb e more v n hv ih =>
    obtain rfl : c = '\\' := not_not.1 hcb
    cases hr : decodeBody q (more.drop n) with
    | ok ws => simp [hr, Except.map] at h
    | error err' =>
      obtain rfl : err' = err := by simpa [hr, Except.map] using h
      obtain ⟨pre, rest', vs, hsplit, htoks, hfault⟩ := ih hr
      refine ⟨'\\' :: e :: (more.take n ++ pre), rest', v :: vs, ?_,
        .cons (token_of_decodeEscape hq hv).2 htoks, hfault⟩
      simp only [List.cons_append, List.append_assoc, ← hsplit, List.take_append_drop]

end Faults

section Values

lemma quoted_of_enclosed {q : Char} (hq : q = '"' ∨ q = '\'' ∨ q = backquote)
    (hb : q ≠ backquote) : q = '"' ∨ q = '\'' := by
  rcases hq with hq | hq | hq
  · exact .inl hq
  · exact .inr hq
  · exact absurd hq hb

lemma spells_of_decode {t v : String} (h : decode t = .ok v) : Spells t v := by
  unfold decode at h
  split at h
  · cases h
  · rename_i q body hs
    obtain ⟨ht, hq⟩ := shape_eq_some.1 hs
    obtain rfl : t = String.ofList (q :: body ++ [q]) := by rw [← ht, String.ofList_toList]
    by_cases hraw : q = backquote
    · subst hraw
      by_cases hbq : backquote ∈ body
      · simp [hbq] at h
      · simp only [if_true, List.contains_iff_mem, hbq, if_false, Except.ok.injEq] at h
        subst h
        exact .raw hbq
    have hq' := quoted_of_enclosed hq hraw
    have hlf : '\n' ∉ body := by
      intro hlf
      simp [hraw, hlf] at h
    simp only [hraw, List.contains_iff_mem, hlf, if_false] at h
    cases hvs : decodeBody q body with
    | error err => simp [hvs] at h
    | ok vs =>
      simp only [hvs] at h
      split_ifs at h with hone
      cases h
      exact .quoted hq' hlf (tokens_of_decodeBody hq' hvs) (fun h₁ => by simpa [h₁] using hone)

lemma decode_of_spells {t v : String} (h : Spells t v) : decode t = .ok v := by
  cases h with
  | raw hb =>
    rw [decode, String.toList_ofList, List.cons_append, shape_enclosed (Or.inr (Or.inr rfl))]
    simp [hb]
  | @quoted q b vs hq hlf htoks hone =>
    have hb : q ≠ backquote := by rcases hq with rfl | rfl <;> decide
    rw [decode, String.toList_ofList, List.cons_append,
      shape_enclosed (hq.elim .inl fun h => .inr (.inl h))]
    simp only [hb, if_false, decodeBody_tokens hq htoks]
    have hlf' : (b.contains '\n') = false := by simpa using hlf
    simp only [hlf', Bool.false_eq_true, if_false]
    split_ifs with hbad
    · exact absurd (hone hbad.1) hbad.2
    · rfl

/-- A text without the outer shape of a literal is refused as invalid syntax, before anything
else is looked at. -/
lemma decode_of_not_enclosed {t : String} (h : ¬ Enclosed t) :
    decode t = .error (.invalidSyntax t) := by
  rw [decode, shape_eq_none h]

lemma refused_of_decode {t : String} {err : LiteralError} (h : decode t = .error err) :
    Refused t err := by
  unfold decode at h
  split at h
  · rename_i hs
    cases h
    refine .shape fun hencl => ?_
    obtain ⟨q, b, ht, hq⟩ := hencl
    rw [ht, List.cons_append, shape_enclosed hq] at hs
    cases hs
  · rename_i q body hs
    obtain ⟨ht, hq⟩ := shape_eq_some.1 hs
    obtain rfl : t = String.ofList (q :: body ++ [q]) := by rw [← ht, String.ofList_toList]
    by_cases hraw : q = backquote
    · subst hraw
      by_cases hbq : backquote ∈ body
      · rw [if_pos rfl, if_pos (List.contains_iff_mem.2 hbq)] at h
        cases h
        exact .rawBackquote hbq
      · simp [hbq] at h
    have hq' := quoted_of_enclosed hq hraw
    rw [if_neg hraw] at h
    by_cases hlf : '\n' ∈ body
    · rw [if_pos (List.contains_iff_mem.2 hlf)] at h
      cases h
      exact .lineFeed hq' hlf
    rw [if_neg (by simpa using hlf)] at h
    cases hvs : decodeBody q body with
    | error err' =>
      rw [hvs] at h
      cases h
      obtain ⟨pre, rest, vs, rfl, htoks, hfault⟩ := fault_of_decodeBody hq' hvs
      exact .token hq' hlf htoks hfault
    | ok vs =>
      rw [hvs] at h
      dsimp only at h
      split_ifs at h with hone
      cases h
      obtain ⟨rfl, hlen⟩ := hone
      exact .notOneChar hlf (tokens_of_decodeBody hq' hvs) hlen

lemma decode_of_refused {t : String} {err : LiteralError} (h : Refused t err) :
    decode t = .error err := by
  cases h with
  | shape h => exact decode_of_not_enclosed h
  | rawBackquote hb =>
    rw [decode, String.toList_ofList, List.cons_append, shape_enclosed (Or.inr (Or.inr rfl))]
    simp [hb]
  | @lineFeed q b hq hlf =>
    have hb : q ≠ backquote := by rcases hq with rfl | rfl <;> decide
    rw [decode, String.toList_ofList, List.cons_append,
      shape_enclosed (hq.elim .inl fun h => .inr (.inl h))]
    dsimp only
    rw [if_neg hb, if_pos (List.contains_iff_mem.2 hlf)]
  | @token q pre rest vs err hq hlf htoks hfault =>
    have hb : q ≠ backquote := by rcases hq with rfl | rfl <;> decide
    rw [decode, String.toList_ofList, List.cons_append,
      shape_enclosed (hq.elim .inl fun h => .inr (.inl h))]
    dsimp only
    rw [if_neg hb, if_neg (by simpa using hlf), decodeBody_tokens_fault hq htoks hfault]
  | @notOneChar b vs hlf htoks hlen =>
    rw [decode, String.toList_ofList, List.cons_append, shape_enclosed (Or.inr (Or.inl rfl))]
    dsimp only
    rw [if_neg (by decide), if_neg (by simpa using hlf), decodeBody_tokens (Or.inr rfl) htoks]
    simp [hlen]

end Values

/-- Decoding accepts exactly the literals of the grammar, each with the value the grammar gives,
and refuses every other text with the error of the first check it fails; a text without the outer
shape of a literal is refused as invalid syntax, the text cited. -/
theorem decode_matches_grammar (t : String) :
    (∀ v, decode t = .ok v ↔ Spells t v) ∧ (∀ err, decode t = .error err ↔ Refused t err) ∧
    (¬ Enclosed t →
      (decode t).mapError LiteralError.message = .error ("invalid syntax: " ++ Text.cite t)) := by
  refine ⟨fun v => ⟨spells_of_decode, decode_of_spells⟩,
    fun err => ⟨refused_of_decode, decode_of_refused⟩, fun h => ?_⟩
  rw [decode_of_not_enclosed h]
  rfl

theorem decode_matches_grammar_unclosed :
    ¬ Enclosed "\"ab" ∧
      (decode "\"ab").mapError LiteralError.message =
        .error ("invalid syntax: " ++ Text.cite "\"ab") := by
  have hopen : ¬ Enclosed "\"ab" := by
    rintro ⟨q, b, ht, -⟩
    rw [show "\"ab".toList = ['"', 'a', 'b'] from rfl] at ht
    have hlast := congrArg List.getLast? ht
    have hfirst := congrArg List.head? ht
    rw [List.getLast?_concat] at hlast
    simp at hlast hfirst
    rw [← hfirst] at hlast
    exact absurd hlast (by decide)
  exact ⟨hopen, (decode_matches_grammar _).2.2 hopen⟩

end DiagnosticCheck.Literal
