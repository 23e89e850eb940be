import DiagnosticCheck.Text.Cite

/-!
# Pattern errors

Why a pattern does not compile. Most faults are found while reading the pattern and carry the
position where the reader stood, less an offset back to the start of the faulty piece; the text of
such an error ends in `at position P`, and, when the pattern spans several lines, in the line and
column of that position too. The checks made on the finished pattern carry no position.
-/

namespace DiagnosticCheck.Regex

/-- A fault of a pattern. Texts inside are pieces of the pattern as written. -/
inductive Fault where
  | escapeAtEnd
  | incompleteEscape (escape : String)
  | badEscape (escape : String)
  | missingBrace
  | missingName (what : String)
  | unterminatedName (terminator : Char)
  | undefinedCharacterName (name : String)
  | octalOutOfRange (escape : String)
  | openGroupReference
  | lookbehindGroupReference
  | invalidGroupReference (index : Nat)
  | unterminatedSet
  | badRange (low high : String)
  | minAboveMax
  | repeatTooLarge
  | countTooLong (digits : Nat)
  | nothingToRepeat
  | multipleRepeat
  | unexpectedEnd
  | unknownExtension (extension : String)
  | badGroupName (name : String)
  | unknownGroupName (name : String)
  | badGroupNumber
  | groupRedefined (name : String) (index previous : Nat)
  | tooManyGroups
  | unterminatedComment
  | unterminatedSubpattern
  | conditionalBranches
  | globalFlagsNotAtStart
  | unbalancedParenthesis
  | localeFlag
  | incompatibleFlags
  | missingFlagEnd
  | unknownFlag
  | globalFlagTurnedOn
  | missingFlag
  | classFlagTurnedOff
  | missingColon
  | globalFlagTurnedOff
  | flagOnAndOff
  | lookbehindNotFixed
  | lookbehindTooFar
  | templateRepeat (operator : String)
  | asciiAndUnicode
  | tooComplex
  deriving Repr, DecidableEq

/-- The text of a fault. -/
def Fault.text : Fault → String
  | .escapeAtEnd => "bad escape (end of pattern)"
  | .incompleteEscape e => "incomplete escape " ++ e
  | .badEscape e => "bad escape " ++ e
  | .missingBrace => "missing " ++ String.singleton (Char.ofNat 0x7B)
  | .missingName what => "missing " ++ what
  | .unterminatedName t => "missing " ++ t.toString ++ ", unterminated name"
  | .undefinedCharacterName n => "undefined character name " ++ Text.cite n
  | .octalOutOfRange e => "octal escape value " ++ e ++ " outside of range 0-0o377"
  | .openGroupReference => "cannot refer to an open group"
  | .lookbehindGroupReference =>
    "cannot refer to group defined in the same lookbehind subpattern"
  | .invalidGroupReference n => "invalid group reference " ++ toString n
  | .unterminatedSet => "unterminated character set"
  | .badRange lo hi => "bad character range " ++ lo ++ "-" ++ hi
  | .minAboveMax => "min repeat greater than max repeat"
  | .repeatTooLarge => "the repetition number is too large"
  | .countTooLong n => "Exceeds the limit (4300 digits) for integer string conversion: value has " ++
      toString n ++ " digits; use sys.set_int_max_str_digits() to increase the limit"
  | .nothingToRepeat => "nothing to repeat"
  | .multipleRepeat => "multiple repeat"
  | .unexpectedEnd => "unexpected end of pattern"
  | .unknownExtension e => "unknown extension " ++ e
  | .badGroupName n => "bad character in group name " ++ Text.cite n
  | .unknownGroupName n => "unknown group name " ++ Text.cite n
  | .badGroupNumber => "bad group number"
  | .groupRedefined n g old =>
    "redefinition of group name " ++ Text.cite n ++ " as group " ++ toString g ++
      "; was group " ++ toString old
  | .tooManyGroups => "too many groups"
  | .unterminatedComment => "missing ), unterminated comment"
  | .unterminatedSubpattern => "missing ), unterminated subpattern"
  | .conditionalBranches => "conditional backref with more than two branches"
  | .globalFlagsNotAtStart => "global flags not at the start of the expression"
  | .unbalancedParenthesis => "unbalanced parenthesis"
  | .localeFlag => "bad inline flags: cannot use 'L' flag with a str pattern"
  | .incompatibleFlags => "bad inline flags: flags 'a', 'u' and 'L' are incompatible"
  | .missingFlagEnd => "missing -, : or )"
  | .unknownFlag => "unknown flag"
  | .globalFlagTurnedOn => "bad inline flags: cannot turn on global flag"
  | .missingFlag => "missing flag"
  | .classFlagTurnedOff => "bad inline flags: cannot turn off flags 'a', 'u' and 'L'"
  | .missingColon => "missing :"
  | .globalFlagTurnedOff => "bad inline flags: cannot turn off global flag"
  | .flagOnAndOff => "bad inline flags: flag turned on and off"
  | .lookbehindNotFixed => "look-behind requires fixed-width pattern"
  | .lookbehindTooFar => "looks too much behind"
  | .templateRepeat op => "internal: unsupported template operator " ++ op
  | .asciiAndUnicode => "ASCII and UNICODE flags are incompatible"
  | .tooComplex => "pattern too complex"

/-- How a compile failure is raised: as an error in the pattern, or, for a count too long or flags
that contradict each other, as a value refused, or, for a count too large, as an overflow. -/
inductive Raised where
  | pattern
  | value
  | overflow
  deriving Repr, DecidableEq

def Fault.raised : Fault → Raised
  | .asciiAndUnicode | .countTooLong _ => .value
  | .repeatTooLarge => .overflow
  | _ => .pattern

/-- A pattern error: a fault and, for faults found while reading, where. -/
structure Error where
  fault : Fault
  position : Option Nat := none
  deriving Repr, DecidableEq

/-- The line (from 1) and column (from 1) of a position in a pattern. -/
def lineColumn (pattern : List Char) (pos : Nat) : Nat × Nat :=
  let before := pattern.take pos
  let line := before.count '\n' + 1
  let column := (before.reverse.takeWhile (· ≠ '\n')).length + 1
  (line, column)

/-- The text of a pattern error, given the pattern. -/
def Error.message (pattern : String) (e : Error) : String :=
  match e.position with
  | none => e.fault.text
  | some pos =>
    let base := e.fault.text ++ " at position " ++ toString pos
    let cs := pattern.toList
    if cs.contains '\n' then
      let (line, column) := lineColumn cs pos
      base ++ " (line " ++ toString line ++ ", column " ++ toString column ++ ")"
    else base

end DiagnosticCheck.Regex
