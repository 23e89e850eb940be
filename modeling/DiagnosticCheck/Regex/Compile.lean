import DiagnosticCheck.Regex.Parser

/-!
# Compiling patterns

A pattern compiles when it reads without fault and passes the checks on the finished pattern,
made in the order the pattern is written: under the template flag no repeat is allowed, and every
lookbehind must have a single width, no greater than `maxLookbehind`.
-/

namespace DiagnosticCheck.Regex

def Greed.operatorName : Greed → String
  | .greedy => "MAX_REPEAT"
  | .lazy => "MIN_REPEAT"
  | .possessive => "POSSESSIVE_REPEAT"

mutual

/-- Checks one node and the nodes inside it. -/
def checkNode (template : Bool) : Node → Except Error Unit
  | .group _ _ _ body => checkSeq template body
  | .atomic body => checkSeq template body
  | .quantified _ _ greed body =>
    if template then throw { fault := .templateRepeat greed.operatorName }
    else checkSeq template body
  | .branch alts => checkAlts template alts
  | .look behind _ body => do
    if behind then
      let (lo, hi) := seqWidth body
      if lo > maxLookbehind then throw { fault := .lookbehindTooFar }
      if lo ≠ hi then throw { fault := .lookbehindNotFixed }
    checkSeq template body
  | .conditional _ yes no => do
    checkSeq template yes
    match no with
    | some n => checkSeq template n
    | none => pure ()
  | _ => pure ()

/-- Checks a sequence of nodes in order. -/
def checkSeq (template : Bool) : List Node → Except Error Unit
  | [] => pure ()
  | n :: ns => do
    checkNode template n
    checkSeq template ns

/-- Checks alternatives in order. -/
def checkAlts (template : Bool) : List (List Node) → Except Error Unit
  | [] => pure ()
  | a :: as => do
    checkSeq template a
    checkAlts template as

end

def compile (pattern : String) : Except Error Pattern := do
  let p ← parse pattern
  checkSeq p.flags.template p.nodes
  return p

end DiagnosticCheck.Regex
