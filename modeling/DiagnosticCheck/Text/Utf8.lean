import DiagnosticCheck.Text.Escape

/-!
# Decoding UTF-8

Decoding bytes as UTF-8 stops at the first malformed sequence and says where it starts, how many
bytes it spans and why: a byte that cannot start a sequence, a byte that cannot continue the one
begun (the second byte's range is narrower after `E0`, `ED`, `F0` and `F4`, which excludes
overlong forms, surrogates and values above `0x10FFFF`), or input that ends inside a sequence,
which then spans every byte left.
-/

namespace DiagnosticCheck.Text

/-- Why bytes are not UTF-8. -/
inductive Utf8Problem where
  | invalidStart
  | invalidContinuation
  | unexpectedEnd
  deriving Repr, DecidableEq

/-- A malformed sequence: the bytes from `start` to before `stop`, and why. -/
structure Utf8Error where
  start : Nat
  stop : Nat
  firstByte : Nat
  problem : Utf8Problem
  deriving Repr, DecidableEq

def Utf8Problem.text : Utf8Problem → String
  | .invalidStart => "invalid start byte"
  | .invalidContinuation => "invalid continuation byte"
  | .unexpectedEnd => "unexpected end of data"

/-- The text of a decoding error. -/
def Utf8Error.message (e : Utf8Error) : String :=
  if e.stop = e.start + 1 then
    "'utf-8' codec can't decode byte 0x" ++ String.ofList (hexDigits 2 e.firstByte) ++
      " in position " ++ toString e.start ++ ": " ++ e.problem.text
  else
    "'utf-8' codec can't decode bytes in position " ++ toString e.start ++ "-" ++
      toString (e.stop - 1) ++ ": " ++ e.problem.text

def isContinuation (b : Nat) : Bool :=
  0x80 ≤ b && b ≤ 0xBF

/-- The range that the second byte of a sequence must lie in, given the first byte. -/
def secondRange (b : Nat) : Nat × Nat :=
  if b = 0xE0 then (0xA0, 0xBF)
  else if b = 0xED then (0x80, 0x9F)
  else if b = 0xF0 then (0x90, 0xBF)
  else if b = 0xF4 then (0x80, 0x8F)
  else (0x80, 0xBF)

/-- The number of bytes of a sequence that starts with `b`, or none if `b` cannot start one. -/
def sequenceLength (b : Nat) : Option Nat :=
  if b < 0x80 then some 1
  else if b < 0xC2 then none
  else if b < 0xE0 then some 2
  else if b < 0xF0 then some 3
  else if b < 0xF5 then some 4
  else none

/-- The code point of a well-formed sequence. -/
def sequenceValue (bs : List Nat) : Nat :=
  match bs with
  | [a] => a
  | [a, b] => (a % 0x20) * 0x40 + b % 0x40
  | [a, b, c] => (a % 0x10) * 0x1000 + (b % 0x40) * 0x40 + c % 0x40
  | [a, b, c, d] => (a % 0x08) * 0x40000 + (b % 0x40) * 0x1000 + (c % 0x40) * 0x40 + d % 0x40
  | _ => 0

/-- How many leading bytes of `rest` (the bytes after a first byte `b`) continue the sequence
correctly, at most `need`. -/
def goodContinuations (b : Nat) (rest : List Nat) (need : Nat) : Nat :=
  let (lo, hi) := secondRange b
  match rest with
  | [] => 0
  | c :: more =>
    if need = 0 ∨ c < lo ∨ hi < c then 0
    else 1 + ((more.take (need - 1)).takeWhile isContinuation).length

/-- Decodes bytes from offset `pos` on. -/
def decodeFrom (pos : Nat) : List Nat → Except Utf8Error (List Char)
  | [] => .ok []
  | b :: rest =>
    match sequenceLength b with
    | none => .error ⟨pos, pos + 1, b, .invalidStart⟩
    | some 1 => (decodeFrom (pos + 1) rest).map (Char.ofNat b :: ·)
    | some len =>
      let good := goodContinuations b rest (len - 1)
      if good = len - 1 then
        let v := sequenceValue (b :: rest.take (len - 1))
        (decodeFrom (pos + len) (rest.drop (len - 1))).map (Char.ofNat v :: ·)
      else if good = rest.length then .error ⟨pos, pos + 1 + rest.length, b, .unexpectedEnd⟩
      else .error ⟨pos, pos + 1 + good, b, .invalidContinuation⟩
termination_by bs => bs.length
decreasing_by
  all_goals simp only [List.length_cons, List.length_drop]
  all_goals omega

def decodeUtf8 (bytes : List Nat) : Except Utf8Error String :=
  (decodeFrom 0 bytes).map String.ofList

/-- A text read in text mode: every carriage return with a line feed after it, and every other
carriage return, becomes a line feed. -/
def translateNewlines : List Char → List Char
  | [] => []
  | '\r' :: '\n' :: rest => '\n' :: translateNewlines rest
  | '\r' :: rest => '\n' :: translateNewlines rest
  | c :: rest => c :: translateNewlines rest

end DiagnosticCheck.Text
