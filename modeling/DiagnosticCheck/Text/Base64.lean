import DiagnosticCheck.Text.Escape

/-!
# Base64 data

Byte strings written in base64, read leniently: characters outside the alphabet are skipped, and a
pad `=` ends the data once it completes the group of four it stands in (a pad that completes
nothing is skipped too). Data that stops inside a group is refused: one character short of a
full group is wrong padding, a lone character cannot encode anything. The text must be ASCII
before it is read at all; the first run of other characters is reported with its positions.
-/

namespace DiagnosticCheck.Text.Base64

/-- The six bits a character of the alphabet stands for. -/
def sextet? (b : Nat) : Option Nat :=
  if 0x41 ≤ b ∧ b ≤ 0x5A then some (b - 0x41)
  else if 0x61 ≤ b ∧ b ≤ 0x7A then some (b - 0x61 + 26)
  else if 0x30 ≤ b ∧ b ≤ 0x39 then some (b - 0x30 + 52)
  else if b = 0x2B then some 62
  else if b = 0x2F then some 63
  else none

/-- Where reading stands: the place in the current group of four, the bits of that group not yet
written, the pads met since the last character of the alphabet, and the bytes so far, latest
first. -/
structure Reading where
  place : Nat := 0
  carry : Nat := 0
  pads : Nat := 0
  bytes : List Nat := []
  deriving Repr, DecidableEq

/-- Reads one character of the alphabet. -/
def Reading.take (r : Reading) (v : Nat) : Reading :=
  match r.place with
  | 0 => { r with place := 1, carry := v, pads := 0 }
  | 1 => { place := 2, carry := v % 16, pads := 0, bytes := (r.carry * 4 + v / 16) % 256 :: r.bytes }
  | 2 => { place := 3, carry := v % 4, pads := 0, bytes := (r.carry * 16 + v / 4) % 256 :: r.bytes }
  | _ => { place := 0, carry := 0, pads := 0, bytes := (r.carry * 64 + v) % 256 :: r.bytes }

/-- The error of data that stops inside a group. -/
def unfinished (r : Reading) : String :=
  if r.place = 1 then
    "Invalid base64-encoded string: number of data characters (" ++
      toString (r.bytes.length / 3 * 4 + 1) ++ ") cannot be 1 more than a multiple of 4"
  else "Incorrect padding"

/-- Reads the rest of the characters. -/
def readFrom (r : Reading) : List Nat → Except String (List Nat)
  | [] => if r.place = 0 then .ok r.bytes.reverse else .error (unfinished r)
  | b :: rest =>
    if b = 0x3D then
      if 2 ≤ r.place then
        if 4 ≤ r.place + (r.pads + 1) then .ok r.bytes.reverse
        else readFrom { r with pads := r.pads + 1 } rest
      else readFrom r rest
    else
      match sextet? b with
      | some v => readFrom (r.take v) rest
      | none => readFrom r rest

def decode (data : List Nat) : Except String (List Nat) :=
  readFrom {} data

/-- The message about characters outside ASCII at positions `start` to `stop`, the first of them
being `c`. -/
def notAsciiMessage (c : Char) (start stop : Nat) : String :=
  let reason := ": ordinal not in range(128)"
  if stop = start + 1 then
    let n := codePoint c
    let shown := if n ≤ 0xFF then 'x' :: hexDigits 2 n
      else if n ≤ 0xFFFF then 'u' :: hexDigits 4 n
      else 'U' :: hexDigits 8 n
    "'ascii' codec can't encode character '\\" ++ String.ofList shown ++ "' in position " ++
      toString start ++ reason
  else
    "'ascii' codec can't encode characters in position " ++ toString start ++ "-" ++
      toString (stop - 1) ++ reason

/-- The bytes of an ASCII text, or the message about its first run of other characters. -/
def asciiBytes (s : String) : Except String (List Nat) :=
  let cs := s.toList
  match cs.findIdx? (fun c => 0x80 ≤ c.toNat) with
  | none => .ok (cs.map Char.toNat)
  | some i =>
    let run := ((cs.drop i).takeWhile fun c => 0x80 ≤ c.toNat).length
    .error (notAsciiMessage (cs.getD i ' ') i (i + run))

example : decode ("aGVsbG8=".toList.map Char.toNat) = .ok ("hello".toList.map Char.toNat) := by
  rfl
example : decode ("YQ".toList.map Char.toNat) = .error "Incorrect padding" := by rfl

end DiagnosticCheck.Text.Base64
