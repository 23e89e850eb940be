/-!
# Floating-point numbers

Numbers of the binary64 format: a sign, a significand below `2 ^ 53` and a power of two from
`2 ^ -1074` to `2 ^ 971`, or an infinity of either sign, or not a number. Any ratio of natural
numbers, a decimal in particular, reads as the nearest such number, a tie going to the even
significand; what rounds to `2 ^ 1024` or beyond is infinite. Sums and products are the exact
ones, rounded the same way.

A finite number is written with the fewest significant digits that read back as it, and of
several such the nearest to it (a tie to the even last digit): in positional notation, with at
least one digit after the point, when its leading digit stands from the fourth place after the
point to the sixteenth before it, and otherwise as one digit, the others after a point, and a
signed exponent of at least two digits.
-/

namespace DiagnosticCheck

/-- A binary64 number: `(-1) ^ negative × significand × 2 ^ exponent`, an infinity, or not a
number. A finite number is kept in one form: its significand is below `2 ^ 53`, and at least
`2 ^ 52` unless its exponent is the least one, `-1074`, which zero also has. -/
inductive Floating where
  | finite (negative : Bool) (significand : Nat) (exponent : Int)
  | infinity (negative : Bool)
  | nan
  deriving Repr, DecidableEq, Inhabited

namespace Floating

def minExponent : Int := -1074

def maxExponent : Int := 971

def zero (negative : Bool) : Floating := .finite negative 0 minExponent

/-- The number nearest to `num / den`, with the given sign; a tie goes to the even significand.
The denominator must not be zero. -/
def ofRatio (negative : Bool) (num den : Nat) : Floating :=
  if num = 0 then zero negative
  else
    let d : Int := (Nat.log2 num : Int) - Nat.log2 den
    -- the binary order `k` of the ratio: `2 ^ k ≤ num / den < 2 ^ (k + 1)`
    let atLeast := if 0 ≤ d then den <<< d.toNat ≤ num else den ≤ num <<< (-d).toNat
    let k : Int := if atLeast then d else d - 1
    let q : Int := max (k - 52) minExponent
    let (n, dd) := if 0 ≤ q then (num, den <<< q.toNat) else (num <<< (-q).toNat, den)
    let m0 := n / dd
    let r := n % dd
    let m := if 2 * r > dd ∨ (2 * r = dd ∧ m0 % 2 = 1) then m0 + 1 else m0
    let (m, q) := if m = Nat.pow 2 53 then (Nat.pow 2 52, q + 1) else (m, q)
    if q > maxExponent then .infinity negative else .finite negative m q

def ofBinary (negative : Bool) (n : Nat) (e : Int) : Floating :=
  if 0 ≤ e then ofRatio negative (n <<< e.toNat) 1 else ofRatio negative n (1 <<< (-e).toNat)

def digitCount (n : Nat) : Nat :=
  (Nat.toDigits 10 n).length

/-- The number nearest to `mantissa × 10 ^ exponent`. Magnitudes far beyond the finite range
or far below the least positive number are settled without computing the power. -/
def ofDecimal (negative : Bool) (mantissa : Nat) (exponent : Int) : Floating :=
  if mantissa = 0 then zero negative
  else
    let order : Int := digitCount mantissa + exponent
    if order > 310 then .infinity negative
    else if order < -330 then zero negative
    else if 0 ≤ exponent then ofRatio negative (mantissa * Nat.pow 10 exponent.toNat) 1
    else ofRatio negative mantissa (Nat.pow 10 (-exponent).toNat)

def ofInt (n : Int) : Floating :=
  ofRatio (n < 0) n.natAbs 1

/-- The number with its sign turned; not a number stays itself. -/
def negate : Floating → Floating
  | .finite s m e => .finite (!s) m e
  | .infinity s => .infinity (!s)
  | .nan => .nan

def isFinite : Floating → Bool
  | .finite _ _ _ => true
  | _ => false

/-- The integer a number equals, if it is finite with no fractional part. -/
def toInt? : Floating → Option Int
  | .finite s m e =>
    let v : Option Nat :=
      if 0 ≤ e then some (m <<< e.toNat)
      else if m % (1 <<< (-e).toNat) = 0 then some (m >>> (-e).toNat) else none
    v.map fun n => if s then -(n : Int) else n
  | _ => none

/-- Whether two numbers are equal as numbers: zeros of both signs are, not a number is equal to
nothing. -/
def equals : Floating → Floating → Bool
  | .finite _ 0 _, .finite _ 0 _ => true
  | .finite s m e, .finite t n f => s == t && m == n && e == f
  | .infinity s, .infinity t => s == t
  | _, _ => false

/-- The exact sum, rounded; exact cancellation gives positive zero unless both are negative. -/
def add : Floating → Floating → Floating
  | .nan, _ | _, .nan => .nan
  | .infinity s, .infinity t => if s == t then .infinity s else .nan
  | .infinity s, _ | _, .infinity s => .infinity s
  | .finite s m e, .finite t n f =>
    let low := min e f
    let a : Int := (m <<< (e - low).toNat : Nat)
    let b : Int := (n <<< (f - low).toNat : Nat)
    let total := (if s then -a else a) + (if t then -b else b)
    if total = 0 then zero (s && t)
    else ofBinary (total < 0) total.natAbs low

/-- The exact product, rounded; infinity times zero is not a number. -/
def mul : Floating → Floating → Floating
  | .nan, _ | _, .nan => .nan
  | .infinity s, .finite t m _ | .finite t m _, .infinity s =>
    if m = 0 then .nan else .infinity (s != t)
  | .infinity s, .infinity t => .infinity (s != t)
  | .finite s m e, .finite t n f => ofBinary (s != t) (m * n) (e + f)

def compareScaled (a : Nat) (p : Int) (b : Nat) (e : Int) : Ordering :=
  let lhs := a * Nat.pow 10 (max p 0).toNat * Nat.pow 2 (max (-e) 0).toNat
  let rhs := b * Nat.pow 2 (max e 0).toNat * Nat.pow 10 (max (-p) 0).toNat
  compare lhs rhs

/-- Moves an estimate `p` of the decimal order of `v × 2 ^ e` (the `p` with
`10 ^ p ≤ v × 2 ^ e < 10 ^ (p + 1)`) to the right one, a step at a time. -/
def settleOrder (v : Nat) (e : Int) : Nat → Int → Int
  | 0, p => p
  | fuel + 1, p =>
    if compareScaled 1 p v e == .gt then settleOrder v e fuel (p - 1)
    else if compareScaled 1 (p + 1) v e != .gt then settleOrder v e fuel (p + 1)
    else p

def decimalOrder (m : Nat) (q : Int) : Int :=
  let estimate := ((Nat.log2 m : Int) + q) * 30103 / 100000
  settleOrder m q 8 estimate

/-- The shortest digits `c` (with the exponent `p` of their last place) such that `c × 10 ^ p`
reads back as the positive `m × 2 ^ q`, trying one digit, two, and so on up to seventeen: the
values reading back as it lie strictly within half a step of it on either side, or on the ends
too when `m` is even, the step below being half as wide when `m` is a power of two above the
least exponent. Of the two neighbours of the value at each length, the nearer that reads back
wins, a tie to the even one. -/
def shortestFrom (m : Nat) (q : Int) (order : Int) : Nat → Nat → Nat × Int
  | 0, _ => (m, q)
  | fuel + 1, n =>
    let e := q - 2
    let v := 4 * m
    let high := v + 2
    let low := if m = Nat.pow 2 52 ∧ q > minExponent then v - 1 else v - 2
    let inclusive := m % 2 = 0
    let within := fun (c : Nat) (p : Int) =>
      let above := compareScaled c p low e
      let below := compareScaled c p high e
      (above == .gt || (inclusive && above == .eq)) && (below == .lt || (inclusive && below == .eq))
    let p := order - n + 1
    let lo := (v * Nat.pow 2 (max e 0).toNat * Nat.pow 10 (max (-p) 0).toNat) /
      (Nat.pow 10 (max p 0).toNat * Nat.pow 2 (max (-e) 0).toNat)
    let hi := lo + 1
    match within lo p, within hi p with
    | true, true =>
      -- nearer of the two: compare `2 × value` with `(lo + hi) × 10 ^ p`
      match compareScaled (lo + hi) p (2 * v) e with
      | .lt => (hi, p)
      | .gt => (lo, p)
      | .eq => if lo % 2 = 0 then (lo, p) else (hi, p)
    | true, false => (lo, p)
    | false, true => (hi, p)
    | false, false => shortestFrom m q order fuel (n + 1)

def trimZeros : Nat → Nat × Int → Nat × Int
  | 0, r => r
  | fuel + 1, (c, p) => if c ≠ 0 ∧ c % 10 = 0 then trimZeros fuel (c / 10, p + 1) else (c, p)

/-- The shortest digits of a positive `m × 2 ^ q` that read back as it, and the exponent of their
last place. -/
def shortest (m : Nat) (q : Int) : Nat × Int :=
  trimZeros 20 (shortestFrom m q (decimalOrder m q) 17 1)

/-- The text of the digits `c × 10 ^ p` (no trailing zero), by the notation rule. -/
def digitsText (c : Nat) (p : Int) : String :=
  let digits := (toString c).toList
  -- the value is `0.d1d2… × 10 ^ point`
  let point : Int := p + digits.length
  if -4 < point ∧ point ≤ 16 then
    if point ≤ 0 then "0." ++ String.ofList (List.replicate (-point).toNat '0' ++ digits)
    else if point.toNat ≥ digits.length then
      String.ofList (digits ++ List.replicate (point.toNat - digits.length) '0') ++ ".0"
    else String.ofList (digits.take point.toNat ++ '.' :: digits.drop point.toNat)
  else
    let e10 := point - 1
    let mantissa := match digits with
      | [d] => [d]
      | d :: ds => d :: '.' :: ds
      | [] => ['0']
    let expText := (if e10 < 0 then "-" else "+") ++
      (if e10.natAbs < 10 then "0" else "") ++ toString e10.natAbs
    String.ofList mantissa ++ "e" ++ expText

/-- The text of a number: its shortest digits by the notation rule, `inf` and `nan`. -/
def text : Floating → String
  | .infinity false => "inf"
  | .infinity true => "-inf"
  | .nan => "nan"
  | .finite s m q =>
    let sign := if s then "-" else ""
    if m = 0 then sign ++ "0.0"
    else
      let (c, p) := shortest m q
      sign ++ digitsText c p

end Floating

end DiagnosticCheck
