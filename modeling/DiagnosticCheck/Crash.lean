/-!
# Crashes

Failures that the checker does not catch: the run stops with them and makes no report. Each has
a kind, which says what failed, and a message.
-/

namespace DiagnosticCheck

/-- What failed in a crash: a value refused, a key or an index missing, an attribute of nothing,
nesting too deep, a number too large to hold, or an inconsistent state of the pattern matcher. -/
inductive Crash.Kind where
  | value
  | key
  | index
  | attribute
  | recursion
  | overflow
  | system
  deriving Repr, DecidableEq

/-- A failure that stops a run. -/
structure Crash where
  kind : Crash.Kind
  message : String
  deriving Repr, DecidableEq

end DiagnosticCheck
