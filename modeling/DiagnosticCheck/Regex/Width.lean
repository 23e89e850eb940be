import DiagnosticCheck.Regex.Syntax

/-!
# Pattern widths

The least and greatest number of characters a pattern can match. Widths are counted the way
repeat counts are held: a sequence's least width stops one below `maxRepeat` and its greatest
width at `maxRepeat`, which also stands for no bound, the greatest width of a repeat without
bound over a body that can consume something. A lookbehind must have one width, which tells how
far back it starts.
-/

namespace DiagnosticCheck.Regex

/-- The count that no repeat may reach; as a greatest width it stands for no bound. -/
def maxRepeat : Nat := 4294967295

mutual

/-- The least and greatest number of characters a node can match, `maxRepeat` standing for no
bound. -/
def Node.width : Node → Nat × Nat
  | .char _ | .notChar _ | .any | .set _ _ => (1, 1)
  | .anchor _ => (0, 0)
  | .group _ _ _ body => seqWidth body
  | .atomic body => seqWidth body
  | .quantified lo hi _ body =>
    let (i, j) := seqWidth body
    (i * lo, match hi with
      | some h => j * h
      | none => if j = 0 then 0 else maxRepeat)
  | .branch alts => branchWidth alts (maxRepeat - 1) 0
  | .look _ _ _ => (0, 0)
  | .backref _ lo hi => (lo, hi)
  | .conditional _ yes no =>
    let (i, j) := seqWidth yes
    match no with
    | some n =>
      let (l, h) := seqWidth n
      (min i l, max j h)
    | none => (0, j)

/-- The width range of a sequence: the least width at most one below `maxRepeat`, the greatest
at most `maxRepeat`. -/
def seqWidth : List Node → Nat × Nat
  | [] => (0, 0)
  | n :: ns =>
    let (i, j) := n.width
    let (l, h) := seqWidthRaw ns
    (min (i + l) (maxRepeat - 1), min (j + h) maxRepeat)

/-- The width range of a sequence before the bound is applied. -/
def seqWidthRaw : List Node → Nat × Nat
  | [] => (0, 0)
  | n :: ns =>
    let (i, j) := n.width
    let (l, h) := seqWidthRaw ns
    (i + l, j + h)

/-- The width range of alternatives: the least low and greatest high bound. -/
def branchWidth : List (List Node) → Nat → Nat → Nat × Nat
  | [], lo, hi => (lo, hi)
  | a :: as, lo, hi =>
    let (i, j) := seqWidth a
    branchWidth as (min lo i) (max hi j)

end

end DiagnosticCheck.Regex
