/-!
# Whitespace

Two whitespace classes are in use. The Unicode one has the 29 code points of general category Zs,
Zl and Zp or of bidirectional class WS, B and S in Unicode 14.0: it decides what stripping a
text removes and what `\s` matches. The ASCII one has the tab, line feed, vertical tab, form
feed, carriage return and space.
-/

namespace DiagnosticCheck.Text.Unicode

def spaceCodes : List Nat :=
  [0x09, 0x0A, 0x0B, 0x0C, 0x0D, 0x1C, 0x1D, 0x1E, 0x1F, 0x20, 0x85, 0xA0, 0x1680,
   0x2000, 0x2001, 0x2002, 0x2003, 0x2004, 0x2005, 0x2006, 0x2007, 0x2008, 0x2009, 0x200A,
   0x2028, 0x2029, 0x202F, 0x205F, 0x3000]

def isSpaceCode (n : Nat) : Bool :=
  spaceCodes.contains n

def isSpace (c : Char) : Bool :=
  isSpaceCode c.toNat

/-- Whether a code point is ASCII whitespace: tab, line feed, vertical tab, form feed, carriage
return or space. -/
def isAsciiSpaceCode (n : Nat) : Bool :=
  (0x09 ≤ n && n ≤ 0x0D) || n == 0x20

def isAsciiSpace (c : Char) : Bool :=
  isAsciiSpaceCode c.toNat

theorem isAsciiSpace_isSpace {c : Char} (h : isAsciiSpace c = true) : isSpace c = true := by
  revert h
  unfold isAsciiSpace isAsciiSpaceCode isSpace isSpaceCode
  generalize c.toNat = n
  intro h
  simp only [Bool.or_eq_true, Bool.and_eq_true, decide_eq_true_eq, beq_iff_eq] at h
  rcases h with ⟨h1, h2⟩ | h
  · have : n = 9 ∨ n = 10 ∨ n = 11 ∨ n = 12 ∨ n = 13 := by omega
    rcases this with rfl | rfl | rfl | rfl | rfl <;> decide
  · subst h; decide

end DiagnosticCheck.Text.Unicode
