import DiagnosticCheck.Literal
import Mathlib

/-!
# Round trip of quoted literals

A text is written as a double-quoted literal one character at a time: a named escape for the
characters that have one, the character itself when it is printable, and otherwise a
hexadecimal escape of two, four or eight digits, the narrowest that holds the code point. This
module shows that the reader inverts every one of these branches, so that decoding a quoted text
gives the text back, whatever table of printable characters the writer used, as long as the text
carries no lone surrogate. The raw backquoted form, used when the text allows it, reads back as
well. Along the way it pins down the shape of the written literal: one line, every quote and
backslash escaped, only printable characters.
-/
namespace DiagnosticCheck.Literal

open Text

section Hex

lemma digitChar_hexValue : ∀ d, d < 16 → hexDigitValue (Nat.digitChar d) = some d := by decide

lemma hexNumber_toDigits (n : Nat) : hexNumber (Nat.toDigits 16 n) = some n := by
  induction n using Nat.strongRecOn with
  | ind n ih =>
    rw [Nat.toDigits_eq_if (by decide)]
    split
    · rename_i hn
      simp [hexNumber, digitChar_hexValue n hn]
    · rename_i hn
      have hq := ih (n / 16) (by omega)
      simp only [hexNumber, List.foldlM_append] at hq ⊢
      rw [hq]
      simp [digitChar_hexValue (n % 16) (Nat.mod_lt n (by decide))]
      omega

lemma hexNumber_zeros_append (k : Nat) (ds : List Char) :
    hexNumber (List.replicate k '0' ++ ds) = hexNumber ds := by
  have hzero : (List.replicate k '0').foldlM (fun acc d => (hexDigitValue d).map (acc * 16 + ·)) 0 =
      some 0 := by
    induction k with
    | zero => rfl
    | succ k ih => simpa [List.replicate_succ, hexDigitValue] using ih
  simp only [hexNumber, List.foldlM_append, hzero]
  rfl

lemma hexNumber_hexDigits (w n : Nat) : hexNumber (hexDigits w n) = some n := by
  simp [hexDigits, hexNumber_zeros_append, hexNumber_toDigits]

lemma length_hexDigits {w n : Nat} (hw : 0 < w) (h : n < 16 ^ w) : (hexDigits w n).length = w := by
  have := (Nat.length_toDigits_le_iff (by decide) hw).2 h
  simp [hexDigits]
  omega

lemma mem_toDigits {n : Nat} {c : Char} (h : c ∈ Nat.toDigits 16 n) : ∃ d < 16, c = Nat.digitChar d := by
  induction n using Nat.strongRecOn with
  | ind n ih =>
    rw [Nat.toDigits_eq_if (by decide)] at h
    split at h
    · exact ⟨n, by omega, by simpa using h⟩
    · rcases List.mem_append.1 h with h | h
      · exact ih (n / 16) (by omega) h
      · exact ⟨n % 16, Nat.mod_lt n (by decide), by simpa using h⟩

lemma mem_hexDigits {w n : Nat} {c : Char} (h : c ∈ hexDigits w n) : ∃ d < 16, c = Nat.digitChar d := by
  rcases List.mem_append.1 h with h | h
  · exact ⟨0, by decide, (List.eq_of_mem_replicate h).trans rfl⟩
  · exact mem_toDigits h

end Hex

section Escapes

lemma style_named_some {c e : Char} (h : style.named c = some e) :
    simpleEscape e = some c ∧ e ∈ ['a', 'b', 'f', 'n', 'r', 't', 'v', '\\', '"'] := by
  simp only [style] at h
  split_ifs at h <;> cases h <;> subst_vars <;> decide

lemma style_named_none {c : Char} (h : style.named c = none) : c ≠ '"' ∧ c ≠ '\\' ∧ c ≠ '\n' := by
  refine ⟨?_, ?_, ?_⟩ <;> (rintro rfl; simp [style] at h)

lemma digitChar_plain : ∀ d < 16, Nat.digitChar d ≠ '\\' ∧ Nat.digitChar d ≠ '"' ∧
    Nat.digitChar d ≠ '\n' := by decide

end Escapes

section Decoding

lemma decodeEscape_named {c e : Char} (h : style.named c = some e) (more : List Char) :
    decodeEscape '"' e more = .ok (c, 0) := by
  obtain ⟨hs, he⟩ := style_named_some h
  have hq : e ≠ '\'' := by
    intro heq
    subst heq
    simp at he
  simp [decodeEscape, hs, hq]

lemma decodeEscape_hex {letter : Char} {w n : Nat} (hw : hexWidth letter = some w)
    (hs : simpleEscape letter = none) (hpos : 0 < w) (hn : n < 16 ^ w)
    (hcp : letter ≠ 'x' → n ≤ 0x10FFFF ∧ isSurrogate n = false) (rest : List Char) :
    decodeEscape '"' letter (hexDigits w n ++ rest) = .ok (Char.ofNat n, w) := by
  have hlen := length_hexDigits hpos hn
  simp only [decodeEscape, hs, hw, List.take_left' hlen, hexNumber_hexDigits, hlen]
  by_cases hx : letter = 'x'
  · simp [hx]
  · obtain ⟨hle, hsur⟩ := hcp hx
    simp [hx, hsur]
    omega

lemma decodeBody_hex (letter : Char) (w : Nat) {c : Char} (hw : hexWidth letter = some w)
    (hs : simpleEscape letter = none) (hpos : 0 < w) (hn : c.toNat < 16 ^ w)
    (hcp : letter ≠ 'x' → c.toNat ≤ 0x10FFFF ∧ isSurrogate c.toNat = false) (rest : List Char) :
    decodeBody '"' ('\\' :: letter :: hexDigits w c.toNat ++ rest) =
      (decodeBody '"' rest).map (c :: ·) := by
  rw [List.cons_append, List.cons_append, decodeBody]
  simp [decodeEscape_hex hw hs hpos hn hcp rest, List.drop_left' (length_hexDigits hpos hn)]

lemma decodeBody_escapeWith (printable : Char → Bool) {c : Char} (hc : isLoneSurrogate c = false)
    (rest : List Char) :
    decodeBody '"' (style.escapeWith printable c ++ rest) = (decodeBody '"' rest).map (c :: ·) := by
  unfold EscapeStyle.escapeWith
  cases hn : style.named c with
  | some e =>
    simp only [List.cons_append, List.nil_append]
    rw [decodeBody]
    simp [decodeEscape_named hn]
  | none =>
    have hq := style_named_none hn
    have hcp : codePoint c = c.toNat := by simp [codePoint, hc]
    simp only [hcp]
    by_cases hp : printable c
    · rw [if_pos hp, List.cons_append, List.nil_append, decodeBody.eq_def]
      simp [hq.1, hq.2]
    · have hv : c.toNat < 0xD800 ∨ (0xDFFF < c.toNat ∧ c.toNat < 0x110000) := c.valid
      have hsur : isSurrogate c.toNat = false := by
        simp only [isSurrogate, Bool.and_eq_false_iff, decide_eq_false_iff_not]
        omega
      simp only [hp, Bool.false_eq_true, if_false]
      split
      · rename_i hlt
        exact decodeBody_hex 'x' 2 rfl rfl (by decide) (by simp [style] at hlt; omega)
          (fun h => absurd rfl h) rest
      · split
        · rename_i _ hle
          exact decodeBody_hex 'u' 4 rfl rfl (by decide) (by omega) (fun _ => ⟨by omega, hsur⟩) rest
        · exact decodeBody_hex 'U' 8 rfl rfl (by decide) (by omega) (fun _ => ⟨by omega, hsur⟩) rest

lemma decodeBody_escapeAllWith (printable : Char → Bool) (cs : List Char)
    (hcs : ∀ c ∈ cs, isLoneSurrogate c = false) :
    decodeBody '"' (cs.flatMap (style.escapeWith printable)) = .ok cs := by
  induction cs with
  | nil => rw [List.flatMap_nil, decodeBody.eq_def]
  | cons c cs ih =>
    rw [List.flatMap_cons, decodeBody_escapeWith printable (hcs c List.mem_cons_self),
      ih fun x hx => hcs x (List.mem_cons_of_mem c hx)]
    rfl

end Decoding

section Shape

/-- The characters that escaping `c` can write: `c` itself when it is printable and has no
named escape, the backslash, an escape letter, or a hexadecimal digit. -/
lemma mem_escapeWith {printable : Char → Bool} {c x : Char} (h : x ∈ style.escapeWith printable c) :
    (x = c ∧ printable c = true ∧ style.named c = none) ∨
      x ∈ ['\\', 'a', 'b', 'f', 'n', 'r', 't', 'v', '"', 'x', 'u', 'U'] ∨
      ∃ d < 16, x = Nat.digitChar d := by
  unfold EscapeStyle.escapeWith at h
  cases hn : style.named c with
  | some e =>
    rw [hn] at h
    have he := (style_named_some hn).2
    simp only [List.mem_cons, List.not_mem_nil, or_false] at h he
    right; left
    rcases h with rfl | rfl
    · simp
    · rcases he with rfl | rfl | rfl | rfl | rfl | rfl | rfl | rfl | rfl <;> simp
  | none =>
    rw [hn] at h
    dsimp only at h
    split at h
    · rename_i hp
      left
      exact ⟨by simpa using h, hp, rfl⟩
    · right
      have hhex : ∀ {letter : Char} {w : Nat}, letter ∈ ['x', 'u', 'U'] →
          x ∈ '\\' :: letter :: hexDigits w (codePoint c) →
          x ∈ ['\\', 'a', 'b', 'f', 'n', 'r', 't', 'v', '"', 'x', 'u', 'U'] ∨
            ∃ d < 16, x = Nat.digitChar d := by
        intro letter w hl hx
        rcases List.mem_cons.1 hx with rfl | hx
        · simp
        rcases List.mem_cons.1 hx with rfl | hx
        · simp only [List.mem_cons, List.not_mem_nil, or_false] at hl
          rcases hl with rfl | rfl | rfl <;> simp
        · exact Or.inr (mem_hexDigits hx)
      split at h
      · exact hhex (by simp) h
      · split at h
        · exact hhex (by simp) h
        · exact hhex (by simp) h

/-- Whether every double quote and every backslash of a literal body stands escaped: read from
the left, a backslash takes the character after it, and no double quote stands alone. -/
def quotesEscaped : List Char → Bool
  | [] => true
  | '\\' :: _ :: rest => quotesEscaped rest
  | ['\\'] => false
  | '"' :: _ => false
  | _ :: rest => quotesEscaped rest

lemma quotesEscaped_plain_append {ds : List Char} (hds : ∀ x ∈ ds, x ≠ '\\' ∧ x ≠ '"')
    (rest : List Char) : quotesEscaped (ds ++ rest) = quotesEscaped rest := by
  induction ds with
  | nil => rfl
  | cons d ds ih =>
    obtain ⟨hb, hq⟩ := hds d List.mem_cons_self
    rw [List.cons_append, quotesEscaped.eq_5 _ _ (fun _ _ h => absurd h hb) (fun h => absurd h hb) hq]
    exact ih fun x hx => hds x (List.mem_cons_of_mem d hx)

lemma quotesEscaped_escapeWith (printable : Char → Bool) (c : Char) (rest : List Char) :
    quotesEscaped (style.escapeWith printable c ++ rest) = quotesEscaped rest := by
  have hdigits : ∀ w n, ∀ x ∈ hexDigits w n, x ≠ '\\' ∧ x ≠ '"' := by
    intro w n x hx
    obtain ⟨d, hd, rfl⟩ := mem_hexDigits hx
    exact ⟨(digitChar_plain d hd).1, (digitChar_plain d hd).2.1⟩
  unfold EscapeStyle.escapeWith
  cases hn : style.named c with
  | some e => rfl
  | none =>
    obtain ⟨hq, hb, -⟩ := style_named_none hn
    dsimp only
    split
    · exact quotesEscaped_plain_append (by simpa using ⟨hb, hq⟩) rest
    · split
      · exact quotesEscaped_plain_append (hdigits _ _) rest
      · split <;> exact quotesEscaped_plain_append (hdigits _ _) rest

end Shape

section Reading

lemma shape_enclosed {q : Char} (hq : q = '"' ∨ q = '\'' ∨ q = backquote) (body : List Char) :
    shape (q :: (body ++ [q])) = some (q, body) := by
  simp [shape, hq]

lemma newline_not_mem_escapeWith (printable : Char → Bool) (c : Char) :
    '\n' ∉ style.escapeWith printable c := by
  intro hx
  rcases mem_escapeWith hx with ⟨rfl, -, hn⟩ | hx | ⟨d, hd, hx⟩
  · exact (style_named_none hn).2.2 rfl
  · simp at hx
  · exact (digitChar_plain d hd).2.2 hx.symm

/-- A double-quoted literal written with any table of printable characters reads back as the
text, provided the text carries no lone surrogate. -/
lemma decode_escapeAllWith (printable : Char → Bool) {s : String}
    (hs : hasLoneSurrogate s = false) :
    decode (String.ofList ('"' :: s.toList.flatMap (style.escapeWith printable) ++ ['"'])) =
      .ok s := by
  have hcs : ∀ c ∈ s.toList, isLoneSurrogate c = false := by
    simpa [hasLoneSurrogate] using hs
  rw [decode, String.toList_ofList, List.cons_append, shape_enclosed (Or.inl rfl)]
  simp [newline_not_mem_escapeWith, decodeBody_escapeAllWith printable _ hcs, backquote]

lemma decode_raw {s : String} (h : canRaw s = true) :
    decode (String.ofList (backquote :: s.toList ++ [backquote])) = .ok s := by
  have hall : ∀ c ∈ s.toList, rawAllowed c = true := by simpa [canRaw] using h
  have hnb : backquote ∉ s.toList := fun hb => by
    simpa [rawAllowed] using hall _ hb
  have hcr : s.toList.filter (fun c => !decide (c = '\r')) = s.toList :=
    List.filter_eq_self.2 fun c hc => by
      have hc := hall c hc
      simp only [Bool.not_eq_eq_eq_not, Bool.not_true, decide_eq_false_iff_not]
      rintro rfl
      simp [rawAllowed] at hc
  rw [decode, String.toList_ofList, List.cons_append, shape_enclosed (Or.inr (Or.inr rfl))]
  simp [hnb, hcr]

lemma quote_toList (s : String) :
    (quote s).toList = '"' :: (s.toList.flatMap (style.escapeWith Unicode.isPrintable) ++ ['"']) := by
  simp [quote, EscapeStyle.escapeAll]
  rfl

lemma newline_not_mem_quote (s : String) : '\n' ∉ (quote s).toList := by
  rw [quote_toList]
  simp [newline_not_mem_escapeWith]

lemma decode_quote {s : String} (hs : hasLoneSurrogate s = false) : decode (quote s) = .ok s :=
  decode_escapeAllWith Unicode.isPrintable hs

lemma decode_quoteRaw {s : String} (hs : hasLoneSurrogate s = false) : decode (quoteRaw s) = .ok s := by
  unfold quoteRaw
  split
  · exact decode_raw ‹_›
  · exact decode_quote hs

lemma quotesEscaped_escapeAll (printable : Char → Bool) (cs : List Char) :
    quotesEscaped (cs.flatMap (style.escapeWith printable)) = true := by
  induction cs with
  | nil => rfl
  | cons c cs ih => rw [List.flatMap_cons, quotesEscaped_escapeWith, ih]

lemma isPrintable_of_mem_quote {s : String} {x : Char} (hx : x ∈ (quote s).toList) :
    Unicode.isPrintable x = true := by
  have hquote : Unicode.isPrintable '"' = true := by decide
  have hfixed : ['\\', 'a', 'b', 'f', 'n', 'r', 't', 'v', '"', 'x', 'u', 'U'].all
      Unicode.isPrintable = true := by decide
  have hdigit : ∀ d < 16, Unicode.isPrintable (Nat.digitChar d) = true := by decide
  rw [quote_toList] at hx
  simp only [List.mem_cons, List.mem_append, List.mem_flatMap, List.not_mem_nil, or_false] at hx
  rcases hx with rfl | ⟨c, -, hx⟩ | rfl
  · exact hquote
  · rcases mem_escapeWith hx with ⟨rfl, hp, -⟩ | hx | ⟨d, hd, rfl⟩
    · exact hp
    · exact List.all_eq_true.1 hfixed x hx
    · exact hdigit d hd
  · exact hquote

end Reading

theorem quote_round_trip (s : String) (hs : hasLoneSurrogate s = false) :
    (∀ printable : Char → Bool,
      decode (String.ofList ('"' :: s.toList.flatMap (style.escapeWith printable) ++ ['"'])) =
        .ok s) ∧
    decode (quote s) = .ok s ∧ decode (quoteRaw s) = .ok s ∧
    '\n' ∉ (quote s).toList ∧
    (∃ body, (quote s).toList = '"' :: body ++ ['"'] ∧ quotesEscaped body = true) ∧
    ∀ c ∈ (quote s).toList, Unicode.isPrintable c = true := by
  refine ⟨fun printable => decode_escapeAllWith printable hs, decode_quote hs, decode_quoteRaw hs,
    newline_not_mem_quote s, ⟨_, by rw [quote_toList]; rfl, quotesEscaped_escapeAll _ _⟩,
    fun c hc => isPrintable_of_mem_quote hc⟩

theorem quote_round_trip_sample :
    let s := "tab\t \"q\" \\ \x01 \u00a0 é 😀"
    hasLoneSurrogate s = false ∧
      (∀ printable : Char → Bool,
        decode (String.ofList ('"' :: s.toList.flatMap (style.escapeWith printable) ++ ['"'])) =
          .ok s) ∧
      decode (quote s) = .ok s ∧ decode (quoteRaw s) = .ok s ∧
      '\n' ∉ (quote s).toList ∧
      (∃ body, (quote s).toList = '"' :: body ++ ['"'] ∧ quotesEscaped body = true) ∧
      ∀ c ∈ (quote s).toList, Unicode.isPrintable c = true :=
  ⟨by decide, quote_round_trip _ (by decide)⟩

end DiagnosticCheck.Literal
