/-!
# Patterns

The syntax tree of a regular expression, as the parser leaves it: characters and sets of them,
anchors, groups, repeats, alternatives, lookaround assertions, back references and conditionals.
Characters are kept as code points, since an escape may name a surrogate, which no character of a
searched text can be. Flags are kept per group, as the pattern sets them.
-/

namespace DiagnosticCheck.Regex

/-- The flags of a pattern, set for the whole pattern or for one group. -/
structure Flags where
  ignoreCase : Bool := false
  multiline : Bool := false
  dotAll : Bool := false
  verbose : Bool := false
  ascii : Bool := false
  unicode : Bool := false
  locale : Bool := false
  template : Bool := false
  deriving Repr, DecidableEq, Inhabited

namespace Flags

/-- Flags set in either. -/
def union (a b : Flags) : Flags where
  ignoreCase := a.ignoreCase || b.ignoreCase
  multiline := a.multiline || b.multiline
  dotAll := a.dotAll || b.dotAll
  verbose := a.verbose || b.verbose
  ascii := a.ascii || b.ascii
  unicode := a.unicode || b.unicode
  locale := a.locale || b.locale
  template := a.template || b.template

/-- Flags set in `a` and not in `b`. -/
def diff (a b : Flags) : Flags where
  ignoreCase := a.ignoreCase && !b.ignoreCase
  multiline := a.multiline && !b.multiline
  dotAll := a.dotAll && !b.dotAll
  verbose := a.verbose && !b.verbose
  ascii := a.ascii && !b.ascii
  unicode := a.unicode && !b.unicode
  locale := a.locale && !b.locale
  template := a.template && !b.template

def meets (a b : Flags) : Bool :=
  (a.ignoreCase && b.ignoreCase) || (a.multiline && b.multiline) || (a.dotAll && b.dotAll) ||
    (a.verbose && b.verbose) || (a.ascii && b.ascii) || (a.unicode && b.unicode) ||
    (a.locale && b.locale) || (a.template && b.template)

/-- Whether no flag is set. -/
def isEmpty (a : Flags) : Bool :=
  !(a.meets a)

def hasTypeFlag (a : Flags) : Bool :=
  a.ascii || a.unicode || a.locale

/-- The flags inside a group that adds `add` and removes `del`: a class flag added replaces the
class flags in force. -/
def within (outer add del : Flags) : Flags :=
  let base := if add.hasTypeFlag then { outer with ascii := false, unicode := false, locale := false }
    else outer
  (base.union add).diff del

/-- The flag named by a letter in an inline flag group. -/
def ofLetter? : Char → Option Flags
  | 'i' => some { ignoreCase := true }
  | 'L' => some { locale := true }
  | 'm' => some { multiline := true }
  | 's' => some { dotAll := true }
  | 'x' => some { verbose := true }
  | 'a' => some { ascii := true }
  | 't' => some { template := true }
  | 'u' => some { unicode := true }
  | _ => none

end Flags

/-- The character classes that escapes name. -/
inductive Category where
  | digit
  | notDigit
  | space
  | notSpace
  | word
  | notWord
  deriving Repr, DecidableEq

/-- A member of a character set. -/
inductive SetItem where
  | char (c : Nat)
  | range (lo hi : Nat)
  | category (c : Category)
  deriving Repr, DecidableEq

/-- Positions that a pattern can require without consuming a character. -/
inductive Anchor where
  | lineStart
  | lineEnd
  | textStart
  | textEnd
  | boundary
  | nonBoundary
  deriving Repr, DecidableEq

/-- How a repeat chooses its count: most first, fewest first, or most without giving any back. -/
inductive Greed where
  | greedy
  | lazy
  | possessive
  deriving Repr, DecidableEq

/-- A pattern node. A sequence of nodes matches one after the other. -/
inductive Node where
  | char (c : Nat)
  | notChar (c : Nat)
  | any
  | set (negated : Bool) (items : List SetItem)
  | anchor (a : Anchor)
  | group (index : Option Nat) (add del : Flags) (body : List Node)
  | atomic (body : List Node)
  | quantified (min : Nat) (max : Option Nat) (greed : Greed) (body : List Node)
  | branch (alternatives : List (List Node))
  | look (behind positive : Bool) (body : List Node)
  | backref (index : Nat) (low high : Nat)
  | conditional (index : Nat) (yes : List Node) (no : Option (List Node))
  deriving Repr, Inhabited

/-- A parsed pattern: its nodes, its global flags and its number of groups (group 0 included). -/
structure Pattern where
  nodes : List Node
  flags : Flags
  groups : Nat
  deriving Repr

end DiagnosticCheck.Regex
