import DiagnosticCheck.Regex.Classes
import DiagnosticCheck.Regex.Width

/-!
# Searching a text

A pattern is searched for by trying to match it at each position of the text from the left. A
match explores the pattern's choices in order (alternatives from the first, a greedy repeat from
the most iterations down, a lazy one from the fewest up) and backtracks on failure, each step
handing its end position and group marks to the rest of the match. Atomic groups, possessive
repeats and lookaround assertions keep the first way their body matches. A repeat stops
iterating once an optional iteration has matched nothing, so that it always ends; a repeat of a
single character test counts its run at once (`repeatOne`). A pattern that starts with a set
skips the positions whose character fails that set read under the global flags
(`Pattern.leadTest`).

Besides positions handed along, the matcher keeps one cursor: the position that a step last
handed to a part of the pattern run on its own (an assertion's or atomic group's body, an
iteration of a possessive repeat, an alternative, the rest after a repeated character) or
that such a part reached. A failed attempt reports where it left the cursor (`Trial.failed`).
The cursor decides one thing: when an optional iteration of a possessive repeat fails, the
rest of the pattern goes on from the cursor, not from where the iteration began.
-/

namespace DiagnosticCheck.Regex

/-- The group marks a match has set: two slots per capturing group, where it started and where
it ended, of which the first `count` are in force. Setting a slot beyond them brings the slots
in between into force unset; taking slots out of force leaves their values behind, to be
cleared or overwritten when they come back. -/
structure Marks where
  slots : Array (Option Nat)
  count : Nat

namespace Marks

/-- No group marked, for a pattern with `groups` groups. -/
def empty (groups : Nat) : Marks :=
  ⟨Array.replicate (2 * groups) none, 0⟩

def clearFrom (slots : Array (Option Nat)) (i : Nat) : Nat → Array (Option Nat)
  | 0 => slots
  | n + 1 => clearFrom (slots.setIfInBounds i none) (i + 1) n

def set (m : Marks) (i pos : Nat) : Marks :=
  if i < m.count then { m with slots := m.slots.setIfInBounds i (some pos) }
  else ⟨(clearFrom m.slots m.count (i - m.count)).setIfInBounds i (some pos), i + 1⟩

def markStart (m : Marks) (g pos : Nat) : Marks :=
  m.set (2 * (g - 1)) pos

def markEnd (m : Marks) (g pos : Nat) : Marks :=
  m.set (2 * (g - 1) + 1) pos

/-- The span that group `g` matched, when both its slots are in force, set and in order. -/
def span? (m : Marks) (g : Nat) : Option (Nat × Nat) :=
  if 2 * g ≤ m.count then
    match m.slots[2 * (g - 1)]?, m.slots[2 * (g - 1) + 1]? with
    | some (some s), some (some e) => if s ≤ e then some (s, e) else none
    | _, _ => none
  else none

/-- The marks after a failed choice made from `saved`: all of `saved` again where failed choices
give back what they set, else the slots in force in `saved` with the values the choice left. -/
def restore (m saved : Marks) (giveBack : Bool) : Marks :=
  if giveBack then saved else { m with count := saved.count }

end Marks

/-- How an attempt to match part of a pattern ended: with the end position and marks of a match,
or with a failure that says where it left the cursor (`none` when it never moved it) and the
marks. -/
inductive Trial where
  | found (pos : Nat) (marks : Marks)
  | failed (cursor : Option Nat) (marks : Marks)

/-- The trial of an attempt that began by moving the cursor to `w`: a failure that did not move
it again leaves it at `w`. -/
def Trial.after (w : Nat) : Trial → Trial
  | .failed none m => .failed (some w) m
  | t => t

abbrev Continuation := Nat → Marks → Trial

def stop : Continuation := fun p m => .found p m

/-- Whether an anchor holds at a position of a text. -/
def atAnchor (text : Array Char) (flags : Flags) (a : Anchor) (pos : Nat) : Bool :=
  let n := text.size
  let wordAt := fun i => match text[i]? with
    | some c => flags.mode.isWord c.toNat
    | none => false
  let before := pos > 0 && wordAt (pos - 1)
  match a with
  | .lineStart => pos == 0 || (flags.multiline && text[pos - 1]? == some '\n')
  | .lineEnd =>
    if flags.multiline then pos == n || text[pos]? == some '\n'
    else pos == n || (pos + 1 == n && text[pos]? == some '\n')
  | .textStart => pos == 0
  | .textEnd => pos == n
  | .boundary => n != 0 && before != wordAt pos
  | .nonBoundary => n != 0 && before == wordAt pos

/-- Whether the text at `pos` repeats the text from `s` to `e`, comparing lowercase forms under
case-insensitive flags. -/
def repeatsAt (text : Array Char) (mode : Mode) (s e pos : Nat) : Bool :=
  (List.range (e - s)).all fun i =>
    match text[pos + i]?, text[s + i]? with
    | some a, some b =>
      if mode.ignoreCase then mode.lower a.toNat == mode.lower b.toNat else a == b
    | _, _ => false

/-- The test of a node that always matches exactly one character, under the flags in force: a
character, a character excluded, any character, or a set. -/
def Node.oneCharTest? (flags : Flags) : Node → Option (Char → Bool)
  | .char c =>
    let test := flags.mode.literalTest c
    some fun ch => test ch.toNat
  | .notChar c =>
    let test := flags.mode.literalTest c
    some fun ch => !test ch.toNat
  | .any => if flags.dotAll then some fun _ => true else some fun ch => ch != '\n'
  | .set negated items =>
    let m := flags.mode
    some fun ch => m.set negated items ch.toNat
  | _ => none

/-- Whether a one-character node compares the text's characters through a set of case forms:
a set with a member that folds case, or a cased character with extra case forms, under
case-insensitive flags. Counting a run of such a node moves the cursor to the run's end. -/
def Node.foldsThroughSet (flags : Flags) : Node → Bool
  | .char c | .notChar c =>
    let m := flags.mode
    flags.ignoreCase && m.cased c && !(m.extra (m.lower c)).isEmpty
  | .set _ items => flags.ignoreCase && items.any flags.mode.foldsCase
  | _ => false

/-- What the pattern holds right after some point, as far as a step before it needs to know: a
character compared exactly, a set compared exactly, another test of one character, or anything
else (a group mark, the end of a part, an anchor, a repeat). -/
inductive Lead where
  | literal (c : Nat)
  | exactSet (test : Char → Bool)
  | oneChar (test : Char → Bool)
  | other

/-- Whether the character at `q` fails the test that a lead makes, or there is none. -/
def Lead.failsAt (text : Array Char) (q : Nat) : Lead → Bool
  | .literal c => match text[q]? with
    | some ch => ch.toNat != c
    | none => true
  | .exactSet t | .oneChar t => match text[q]? with
    | some ch => !t ch
    | none => true
  | .other => false

/-- What a sequence starts with, reading through groups that neither capture nor do more than
set flags; `after` is what follows the sequence. -/
def leadOf (flags : Flags) (after : Lead) : List Node → Lead
  | [] => after
  | .group none add del body :: rest => leadOf (flags.within add del) (leadOf flags after rest) body
  | node :: _ =>
    match node.oneCharTest? flags with
    | none => .other
    | some t =>
      match node with
      | .char c => if flags.ignoreCase && flags.mode.cased c then .oneChar t else .literal c
      | .set _ _ => if node.foldsThroughSet flags then .oneChar t else .exactSet t
      | _ => .oneChar t
termination_by nodes => nodes
decreasing_by
  · simp only [List.cons.sizeOf_spec]
    omega
  · simp only [List.cons.sizeOf_spec, Node.group.sizeOf_spec]
    omega

/-- The number of characters from `pos + acc` on that pass a test, at most `bound` more, added to
`acc`. -/
def runLength (text : Array Char) (test : Char → Bool) (pos acc : Nat) : Nat → Nat
  | 0 => acc
  | bound + 1 =>
    if h : pos + acc < text.size then
      if test text[pos + acc] then runLength text test pos (acc + 1) bound else acc
    else acc

/-- Tries the continuation at `q` after moving the cursor there, unless what follows fails at
once at `q`, which leaves the cursor at `q` and the marks as they are. -/
def Lead.attempt (follow : Lead) (text : Array Char) (k : Continuation) (marks : Marks) (q : Nat) :
    Trial :=
  if follow.failsAt text q then .failed (some q) marks else (k q marks).after q

/-- One try of the continuation at `q` for a greedy repeat of one character, with the marks
`saved` when the repeat began given back as `giveBack` says after a failure. A position where the
exact character that follows is missing is passed over, leaving cursor and marks as they were. -/
def Lead.tryAt (follow : Lead) (text : Array Char) (k : Continuation) (saved : Marks)
    (giveBack : Bool) (cursor : Option Nat) (marks : Marks) (q : Nat) : Trial :=
  let skip := match follow with
    | .literal _ => follow.failsAt text q
    | _ => false
  if skip then .failed cursor marks
  else
    match follow.attempt text k marks q with
    | .found p m => .found p m
    | .failed c m => .failed c (m.restore saved giveBack)

/-- Tries the continuation at `start + c`, then at each position below it down to `start`;
`cursor` and `marks` are where the tries so far left them. -/
def tryDown (text : Array Char) (follow : Lead) (k : Continuation) (saved : Marks)
    (giveBack : Bool) (start : Nat) (cursor : Option Nat) (marks : Marks) : Nat → Trial
  | 0 => follow.tryAt text k saved giveBack cursor marks start
  | c + 1 =>
    match follow.tryAt text k saved giveBack cursor marks (start + c + 1) with
    | .found p m => .found p m
    | .failed cur m => tryDown text follow k saved giveBack start cur m c

/-- Tries the continuation at `pos`, then at each of the next `extra` positions, passing over
positions where what follows fails at once; the marks after each failure are given back as
`giveBack` says. The cursor of the failures does not count: the caller sets it. -/
def tryUp (text : Array Char) (follow : Lead) (k : Continuation) (saved : Marks)
    (giveBack : Bool) (pos : Nat) (marks : Marks) : Nat → Trial
  | 0 =>
    if follow.failsAt text pos then .failed none marks
    else
      match k pos marks with
      | .found p m => .found p m
      | .failed c m => .failed c (m.restore saved giveBack)
  | extra + 1 =>
    let here : Trial := if follow.failsAt text pos then .failed none marks
      else
        match k pos marks with
        | .found p m => .found p m
        | .failed c m => .failed c (m.restore saved giveBack)
    match here with
    | .found p m => .found p m
    | .failed _ m => tryUp text follow k saved giveBack (pos + 1) m extra

/-- A repeat whose body is one node matching one character: the node's test, the bounds, the
greed, and whether counting a run moves the cursor to its end. -/
structure CharRepeat where
  test : Char → Bool
  lo : Nat
  hi : Option Nat
  greed : Greed
  steps : Bool

/-- The test of a repeat body that is one node matching one character, possibly inside groups
that do no more than set flags, and whether counting it moves the cursor. -/
def oneCharBody? (flags : Flags) : List Node → Option ((Char → Bool) × Bool)
  | [.group none add del body] => oneCharBody? (flags.within add del) body
  | [one] => (one.oneCharTest? flags).map fun t => (t, one.foldsThroughSet flags)
  | _ => none

def Node.charRepeat? (flags : Flags) : Node → Option CharRepeat
  | .quantified lo hi greed body =>
    (oneCharBody? flags body).map fun (test, steps) => ⟨test, lo, hi, greed, steps⟩
  | _ => none

/-- Matches a repeat of a one-character test at `pos`: the run of passing characters is counted
once, and the continuation is tried after each allowed count, the most first for a greedy
repeat (passing over counts where the exact character that follows is missing), the fewest first
for a lazy one, and only the most for a possessive one. This is what the general repeat does for
such a body, whose iterations never match nothing and never mark a group. After a failed try of
the continuation, the marks are given back as `giveBack` says.

The cursor moves to `pos` once there is room for the least count, and to the end of the run
counted when the body folds case through a set. After a failure it is where the last attempt left
it; a lazy repeat puts it back to each position it tried, and to one more when its counting
stopped at the bound on a passing character through a set. -/
def repeatOne (text : Array Char) (giveBack : Bool) (r : CharRepeat) (follow : Lead) (pos : Nat)
    (marks : Marks) (k : Continuation) : Trial :=
  let room := text.size - pos
  if room < r.lo then .failed none marks
  else
    let bound := match r.hi with
      | some h => min h room
      | none => room
    let most := runLength text r.test pos 0 bound
    let counted := if r.steps then pos + most else pos
    if most < r.lo then .failed (some counted) marks
    else
      match r.greed with
      | .greedy =>
        tryDown text follow k marks giveBack (pos + r.lo) (some counted) marks (most - r.lo)
      | .lazy =>
        match tryUp text follow k marks giveBack (pos + r.lo) marks (most - r.lo) with
        | .found p m => .found p m
        | .failed _ m =>
          let last := pos + most
          let beyond := r.steps && r.hi == some most && !(Lead.oneChar r.test).failsAt text last
          .failed (some (if beyond then last + 1 else last)) m
      | .possessive => (k (pos + most) marks).after counted

/-- Whether a branch passes over an alternative at `pos` without trying it: the alternative
starts with a character or a set compared exactly, which the character at `pos` fails. -/
def skipsAlternative (text : Array Char) (flags : Flags) (pos : Nat) (alt : List Node) : Bool :=
  match leadOf flags .other alt with
  | .literal c => (Lead.literal c).failsAt text pos
  | .exactSet t => (Lead.exactSet t).failsAt text pos
  | _ => false

mutual

/-- Matches a sequence of nodes at `pos`, then the continuation. `after` is what the pattern
holds after the sequence, and `giveBack` tells whether the sequence stands inside the body of a
greedy or lazy repeat of more than one character, where failed choices give back the marks they
set. -/
def matchSeq (fuel : Nat) (text : Array Char) (flags : Flags) (giveBack : Bool) (after : Lead)
    (nodes : List Node) (pos : Nat) (marks : Marks) (k : Continuation) : Trial :=
  match fuel with
  | 0 => .failed none marks
  | n + 1 =>
    match nodes with
    | [] => k pos marks
    | node :: rest =>
      let next := fun p m => matchSeq n text flags giveBack after rest p m k
      let follow := leadOf flags after rest
      match node.charRepeat? flags with
      | some r => repeatOne text giveBack r follow pos marks next
      | none => matchNode n text flags giveBack follow node pos marks next

/-- Matches one node at `pos`, then the continuation; `follow` is what the pattern holds after
the node. -/
def matchNode (fuel : Nat) (text : Array Char) (flags : Flags) (giveBack : Bool) (follow : Lead)
    (node : Node) (pos : Nat) (marks : Marks) (k : Continuation) : Trial :=
  match fuel with
  | 0 => .failed none marks
  | n + 1 =>
    let mode := flags.mode
    match node with
    | .char c =>
      match text[pos]? with
      | some ch => if mode.literal c ch.toNat then k (pos + 1) marks else .failed none marks
      | none => .failed none marks
    | .notChar c =>
      match text[pos]? with
      | some ch => if mode.literal c ch.toNat then .failed none marks else k (pos + 1) marks
      | none => .failed none marks
    | .any =>
      match text[pos]? with
      | some ch => if flags.dotAll || ch != '\n' then k (pos + 1) marks else .failed none marks
      | none => .failed none marks
    | .set negated items =>
      match text[pos]? with
      | some ch =>
        if mode.set negated items ch.toNat then k (pos + 1) marks else .failed none marks
      | none => .failed none marks
    | .anchor a => if atAnchor text flags a pos then k pos marks else .failed none marks
    | .group index add del body =>
      let inner := flags.within add del
      match index with
      | some g =>
        matchSeq n text inner giveBack .other body pos (marks.markStart g pos)
          (fun p m => k p (m.markEnd g p))
      | none => matchSeq n text inner giveBack follow body pos marks k
    | .atomic body =>
      match matchSeq n text flags giveBack .other body pos marks stop with
      | .found p m => (k p m).after p
      | .failed _ m => .failed (some pos) m
    | .quantified lo hi .possessive body =>
      matchPossessive n text flags giveBack lo hi body 0 none pos pos marks k
    | .quantified lo hi greed body =>
      match matchRepeat n text flags giveBack lo hi greed body 0 none pos marks k with
      | .found p m => .found p m
      | .failed _ m => .failed (some pos) m
    | .branch alts => matchAlts n text flags giveBack alts pos marks marks k none
    | .look behind positive body =>
      let back := if behind then (seqWidth body).1 else 0
      if pos < back then (if positive then .failed none marks else k pos marks)
      else
        let start := pos - back
        match matchSeq n text flags giveBack .other body start marks stop with
        | .found p m => if positive then (k pos m).after p else .failed (some p) m
        | .failed c m =>
          if positive then .failed (some (c.getD start)) m
          else (k pos (m.restore marks giveBack)).after (c.getD start)
    | .backref g _ _ =>
      match marks.span? g with
      | some (s, e) =>
        if repeatsAt text mode s e pos then k (pos + (e - s)) marks else .failed none marks
      | none => .failed none marks
    | .conditional g yes no =>
      if (marks.span? g).isSome then
        let yesAfter := match no with
          | some (_ :: _) => Lead.other
          | _ => follow
        matchSeq n text flags giveBack yesAfter yes pos marks k
      else matchSeq n text flags giveBack follow (no.getD []) pos marks k

/-- Matches the first alternative that lets the whole match succeed. Each alternative tried
starts with the cursor at `pos` and with the marks `saved` before the first given back as
`giveBack` says; `cursor` and `marks` are where the alternatives tried so far left them. -/
def matchAlts (fuel : Nat) (text : Array Char) (flags : Flags) (giveBack : Bool)
    (alts : List (List Node)) (pos : Nat) (saved marks : Marks) (k : Continuation)
    (cursor : Option Nat) : Trial :=
  match fuel with
  | 0 => .failed none marks
  | n + 1 =>
    match alts with
    | [] => .failed cursor marks
    | a :: rest =>
      if skipsAlternative text flags pos a then
        matchAlts n text flags giveBack rest pos saved marks k cursor
      else
        match (matchSeq n text flags giveBack .other a pos marks k).after pos with
        | .found p m => .found p m
        | .failed c m => matchAlts n text flags giveBack rest pos saved (m.restore saved giveBack) k c

/-- Matches a greedy or lazy repeat after `count` iterations; `last` is where the latest
optional iteration started, and `giveBack` tells whether the repeat itself stands inside such a
repeat's body. The body gives back what its failed choices set. A failed optional iteration of a
greedy repeat gives back all the marks it set; a failed try of the rest after a lazy repeat gives
them back as `giveBack` says. Every failure of such a repeat puts the cursor back at the position
it was tried at, which the caller records. -/
def matchRepeat (fuel : Nat) (text : Array Char) (flags : Flags) (giveBack : Bool) (lo : Nat)
    (hi : Option Nat) (greed : Greed) (body : List Node) (count : Nat) (last : Option Nat)
    (pos : Nat) (marks : Marks) (k : Continuation) : Trial :=
  match fuel with
  | 0 => .failed none marks
  | n + 1 =>
    let more := match hi with
      | some h => decide (count < h)
      | none => true
    let another := more && last != some pos
    let again := fun (last' : Option Nat) (p : Nat) (m : Marks) =>
      match matchRepeat n text flags giveBack lo hi greed body (count + 1) last' p m k with
      | .found q m' => Trial.found q m'
      | .failed _ m' => .failed (some p) m'
    let iterate := fun (last' : Option Nat) (m : Marks) =>
      matchSeq n text flags true .other body pos m (again last')
    match greed with
    | .lazy =>
      if count < lo then iterate last marks
      else
        match k pos marks with
        | .found p m => .found p m
        | .failed _ m =>
          let m := m.restore marks giveBack
          if another then iterate (some pos) m else .failed none m
    | _ =>
      if count < lo then iterate last marks
      else if another then
        match iterate (some pos) marks with
        | .found p m => .found p m
        | .failed _ _ => k pos marks
      else k pos marks

/-- Matches a possessive repeat whose body is run on its own, at `pos` after `count` iterations
that began at `origin`; `last` is where the latest optional iteration started. A failed required
iteration fails the repeat with the cursor back at `origin`. A failed optional iteration ends the
iterations, and the rest of the match goes on from where that iteration left the cursor, with
the marks from before it. -/
def matchPossessive (fuel : Nat) (text : Array Char) (flags : Flags) (giveBack : Bool) (lo : Nat)
    (hi : Option Nat) (body : List Node) (count : Nat) (last : Option Nat) (origin pos : Nat)
    (marks : Marks) (k : Continuation) : Trial :=
  match fuel with
  | 0 => .failed none marks
  | n + 1 =>
    let more := match hi with
      | some h => decide (count < h)
      | none => true
    if count < lo then
      match matchSeq n text flags giveBack .other body pos marks stop with
      | .found p m =>
        matchPossessive n text flags giveBack lo hi body (count + 1) last origin p m k
      | .failed _ m => .failed (some origin) m
    else if more && last != some pos then
      match matchSeq n text flags giveBack .other body pos marks stop with
      | .found p m =>
        matchPossessive n text flags giveBack lo hi body (count + 1) (some pos) origin p m k
      | .failed c _ =>
        let resume := c.getD pos
        (k resume marks).after resume
    else (k pos marks).after pos

end

def searchFuel : Nat := Nat.pow 2 40

def Pattern.matchAt? (p : Pattern) (text : Array Char) (start : Nat) : Option Marks :=
  match matchSeq searchFuel text p.flags false .other p.nodes start (Marks.empty p.groups) stop with
  | .found _ m => some m
  | .failed _ _ => none

/-- Whether some group of a pattern with `groups` groups has both slots in force and set, with
its start after its end. -/
def Marks.broken (m : Marks) (groups : Nat) : Bool :=
  (List.range groups).any fun g =>
    2 * g + 2 ≤ m.count &&
      match m.slots[2 * g]?, m.slots[2 * g + 1]? with
      | some (some s), some (some e) => e < s
      | _, _ => false

mutual

/-- Whether a node starts the run of literal characters at the front of a pattern, and whether
the run goes on past it: a character that the flags in force do not fold, or a group whose own
front holds such a run. -/
def Node.literalLead (flags : Flags) : Node → Bool × Bool
  | .char c => if flags.ignoreCase && flags.mode.cased c then (false, false) else (true, true)
  | .group _ add del body => seqLiteralLead (flags.within add del) body
  | _ => (false, false)

/-- Whether a sequence starts with a literal run, and whether it is all such a run. -/
def seqLiteralLead (flags : Flags) : List Node → Bool × Bool
  | [] => (false, true)
  | n :: ns =>
    match n.literalLead flags with
    | (true, _) => (true, true)
    | (false, true) => seqLiteralLead flags ns
    | (false, false) => (false, false)

end

/-- Whether a set member has another case form under case-insensitive flags, or reaches above
`0xFFFF`. -/
def Mode.leadFolds (m : Mode) : SetItem → Bool
  | .char c => m.cased c
  | .range lo hi => 0xFFFF < hi || m.casedWithin lo hi
  | .category _ => false

/-- The set that starts a pattern, read through the groups in front of it, when no member of it
folds under the flags in force there. -/
def leadSet? (flags : Flags) : List Node → Option (Bool × List SetItem)
  | .group _ add del body :: _ => leadSet? (flags.within add del) body
  | .set negated items :: _ =>
    if flags.ignoreCase && items.any flags.mode.leadFolds then none else some (negated, items)
  | _ => none

/-- The test that a position's first character must pass before a match is tried there.

A pattern that must consume something and has no literal run in front, but starts with a set,
only tries the positions whose character the set holds, with the set's members compared as written
and its classes (`\d`, `\w`, `\s` and their complements) read under the pattern's global flags.
The test mostly restates what matching the set checks; it differs when the set sits in a group
whose flags choose the other kind of character classes, and then both must pass. -/
def Pattern.leadTest (p : Pattern) (ch : Char) : Bool :=
  if (seqWidth p.nodes).1 = 0 || (seqLiteralLead p.flags p.nodes).1 then true
  else
    match leadSet? p.flags p.nodes with
    | some (negated, items) => Mode.set ⟨false, p.flags.unicode⟩ negated items ch.toNat
    | none => true

/-- What a search finds in a text. -/
inductive Found where
  | miss
  | hit
  | brokenSpan
  deriving Repr, DecidableEq

def brokenSpanMessage : String :=
  "The span of capturing group is wrong, please report a bug for the re module."

/-- Searches a text: the first position whose first character passes the lead test (or the end
of the text, where a pattern may match nothing) at which the pattern matches gives the match. -/
def Pattern.search (p : Pattern) (text : String) : Found :=
  let chars := text.toList.toArray
  let first := (List.range (chars.size + 1)).findSome? fun i =>
    if (match chars[i]? with
        | some ch => p.leadTest ch
        | none => true) then p.matchAt? chars i
    else none
  match first with
  | none => .miss
  | some m => if m.broken (p.groups - 1) then .brokenSpan else .hit

end DiagnosticCheck.Regex
