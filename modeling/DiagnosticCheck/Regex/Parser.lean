import DiagnosticCheck.Regex.Width
import DiagnosticCheck.Regex.Error
import DiagnosticCheck.Text.Basic
import DiagnosticCheck.Text.Unicode.Identifier
import DiagnosticCheck.Text.Unicode.Alphabetic
import DiagnosticCheck.Text.Unicode.Decimal
import DiagnosticCheck.Text.Unicode.Names

/-!
# Reading patterns

The reader walks a pattern token by token, a token being one character or a backslash with the
character after it, and always holds the next token in hand. Taking a token reads the one after
it, so a pattern that ends in a lone backslash fails as soon as the token before that backslash is
taken. Every fault is reported at the reader's position, less an offset back to the start of the
faulty piece.

Alternatives are simplified as they are read: a node that starts every alternative is taken out
in front of them, and alternatives of single characters or sets become one set. Groups that
neither capture nor set flags dissolve into the sequence around them, except as the operand of a
repeat.
-/

namespace DiagnosticCheck.Regex

/-- A token: one character, or a backslash and the character after it. -/
inductive Token where
  | plain (c : Char)
  | escaped (c : Char)
  deriving DecidableEq, Repr

namespace Token

def width : Token → Nat
  | .plain _ => 1
  | .escaped _ => 2

def chars : Token → List Char
  | .plain c => [c]
  | .escaped c => ['\\', c]

def text (t : Token) : String :=
  String.ofList t.chars

end Token

def maxGroups : Nat := 1073741823

def maxLookbehind : Nat := 4294967295

/-- The reader's state. -/
structure ReadState where
  index : Nat
  next : Option Token
  flags : Flags
  widths : Array (Option (Nat × Nat))
  names : List (String × Nat)
  lookbehindGroups : Option Nat
  conditionRefs : List (Nat × Nat)

abbrev ReadM := ReaderT (Array Char) (StateT ReadState (Except Error))

/-- What reading a group gives: a node, nothing (a comment), or flags for the whole pattern. -/
inductive GroupResult where
  | node (n : Node)
  | nothing
  | globalFlags

namespace Read

/-- Fails at the reader's position less `offset`. -/
def fail {α : Type} (f : Fault) (offset : Nat := 0) : ReadM α := do
  let s ← get
  let tokenWidth := match s.next with
    | some t => t.width
    | none => 0
  throw { fault := f, position := some (s.index - tokenWidth - offset) }

/-- The reader's position: the start of the token in hand. -/
def tell : ReadM Nat := do
  let s ← get
  return s.index - (match s.next with
    | some t => t.width
    | none => 0)

/-- Reads the token that starts at `i`. A backslash at the very end has no token. -/
def scan (i : Nat) : ReadM (Nat × Option Token) := do
  let pat ← read
  match pat[i]? with
  | none => return (i, none)
  | some c =>
    if c = '\\' then
      match pat[i + 1]? with
      | some d => return (i + 2, some (.escaped d))
      | none => throw { fault := .escapeAtEnd, position := some (pat.size - 1) }
    else return (i + 1, some (.plain c))

def advance : ReadM Unit := do
  let s ← get
  let (i, t) ← scan s.index
  set { s with index := i, next := t }

def seek (i : Nat) : ReadM Unit := do
  modify fun s => { s with index := i }
  advance

def peek : ReadM (Option Token) := do
  return (← get).next

def take : ReadM (Option Token) := do
  let t ← peek
  advance
  return t

/-- Takes the token in hand when it is the plain character `c`. -/
def accept (c : Char) : ReadM Bool := do
  if (← peek) = some (.plain c) then
    advance
    return true
  else return false

def nextIs (p : Char → Bool) : ReadM Bool := do
  match ← peek with
  | some (.plain c) => return p c
  | _ => return false

/-- Takes up to `n` plain characters that satisfy `p`. -/
def takeWhileUpTo (p : Char → Bool) : Nat → ReadM (List Char)
  | 0 => return []
  | n + 1 => do
    match ← peek with
    | some (.plain c) =>
      if p c then
        advance
        return c :: (← takeWhileUpTo p n)
      else return []
    | _ => return []

/-- Takes the pattern text up to `terminator`, which it consumes; `what` names the missing text
in the fault when nothing stands before the terminator. -/
def takeUntil (terminator : Char) (what : String) : Nat → List Char → ReadM (List Char)
  | 0, _ => throw { fault := .tooComplex }
  | fuel + 1, acc => do
    let t ← take
    match t with
    | none =>
      if acc.isEmpty then fail (.missingName what)
      else fail (.unterminatedName terminator) acc.length
    | some t =>
      if t = .plain terminator then
        if acc.isEmpty then fail (.missingName what) 1 else return acc
      else takeUntil terminator what fuel (acc ++ t.chars)

def groupCount : ReadM Nat := do
  return (← get).widths.size

def closedWidth? (g : Nat) : ReadM (Option (Nat × Nat)) := do
  match (← get).widths[g]? with
  | some (some w) => return some w
  | _ => return none

/-- Checks a reference to group `g` made inside a lookbehind. -/
def checkLookbehindReference (g : Nat) : ReadM Unit := do
  match (← get).lookbehindGroups with
  | none => return
  | some before =>
    if (← closedWidth? g).isNone then fail .openGroupReference
    if g ≥ before then fail .lookbehindGroupReference

def checkGroupName (name : List Char) (offset : Nat) : ReadM Unit := do
  if !Text.Unicode.isIdentifier (String.ofList name) then
    fail (.badGroupName (String.ofList name)) (name.length + offset)

/-- Opens a group, naming it if a name is given, and gives its number. -/
def openGroup (name : Option String) : ReadM Nat := do
  let s ← get
  let g := s.widths.size
  if g + 1 > maxGroups then fail .tooManyGroups ((name.map String.length).getD 0 + 1)
  match name with
  | none =>
    set { s with widths := s.widths.push none }
    return g
  | some n =>
    match s.names.lookup n with
    | some old => fail (.groupRedefined n g old) (n.length + 1)
    | none =>
      set { s with widths := s.widths.push none, names := s.names ++ [(n, g)] }
      return g

def closeGroup (g : Nat) (body : List Node) : ReadM Unit :=
  modify fun s => { s with widths := s.widths.setIfInBounds g (some (seqWidth body)) }

/-- The digits of a run of digits of any script with single underscores between them. -/
def digitRun : List Char → Option (List Char)
  | [] => none
  | [c] => if Text.Unicode.isDecimal c.toNat then some [c] else none
  | c :: '_' :: rest =>
    if Text.Unicode.isDecimal c.toNat then (digitRun rest).map (c :: ·) else none
  | c :: rest => if Text.Unicode.isDecimal c.toNat then (digitRun rest).map (c :: ·) else none

def maxDigits : Nat := 4300

/-- The value of an integer written the way the standard integer reader takes it: blanks around,
an optional sign, at most `maxDigits` decimal digits of any script with single underscores between
them. -/
def integerValue? (name : List Char) : Option Int :=
  let body := Text.stripChars name
  let (neg, digits) := match body with
    | '-' :: r => (true, r)
    | '+' :: r => (false, r)
    | r => (false, r)
  match digitRun digits with
  | none => none
  | some ds =>
    if ds.length > maxDigits then none
    else
      let v := ds.foldl (fun acc d => acc * 10 + Text.Unicode.decimalValue d.toNat) 0
      some (if neg then -(v : Int) else v)

/-- Reads a run of ASCII digits. -/
def takeDigits : Nat → ReadM (List Char)
  | 0 => return []
  | fuel + 1 => do
    match ← peek with
    | some (.plain c) =>
      if Text.isAsciiDigit c then
        advance
        return c :: (← takeDigits fuel)
      else return []
    | _ => return []

/-- The value of a repeat count's digits, which must have at most `maxDigits` digits and stay
below `maxRepeat`. -/
def repeatCount (digits : List Char) : ReadM Nat := do
  if digits.length > maxDigits then throw { fault := .countTooLong digits.length }
  let v := Text.decimalNumber digits
  if v ≥ maxRepeat then throw { fault := .repeatTooLarge }
  return v

def categoryNode (c : Category) : Node := .set false [.category c]

/-- The category that an escape letter names. -/
def category? : Char → Option Category
  | 'd' => some .digit
  | 'D' => some .notDigit
  | 's' => some .space
  | 'S' => some .notSpace
  | 'w' => some .word
  | 'W' => some .notWord
  | _ => none

/-- The control character that an escape letter names. -/
def controlEscape? : Char → Option Nat
  | 'a' => some 7
  | 'f' => some 12
  | 'n' => some 10
  | 'r' => some 13
  | 't' => some 9
  | 'v' => some 11
  | '\\' => some 92
  | _ => none

/-- Reads the hexadecimal digits of `\x`, `\u` or `\U` and gives the value. -/
def hexEscape (letter : Char) (width : Nat) : ReadM Nat := do
  let ds ← takeWhileUpTo Text.isHexDigit width
  let escape := '\\' :: letter :: ds
  if ds.length ≠ width then fail (.incompleteEscape (String.ofList escape)) escape.length
  let v := (Text.hexNumber ds).getD 0
  if letter = 'U' ∧ v > 0x10FFFF then fail (.badEscape (String.ofList escape)) escape.length
  return v

/-- Reads a named character escape and gives the character it names. -/
def namedEscape : Nat → ReadM Nat
  | fuel => do
    if !(← accept (Char.ofNat 0x7B)) then fail .missingBrace
    let name ← takeUntil (Char.ofNat 0x7D) "character name" fuel []
    match Text.Unicode.characterNamed? (String.ofList name) with
    | some c => return c
    | none => fail (.undefinedCharacterName (String.ofList name)) (name.length + 4)

/-- What an escape inside a set stands for: a character, or a category. -/
def classEscape (fuel : Nat) (letter : Char) : ReadM SetItem := do
  if letter = 'b' then return .char 8
  match controlEscape? letter with
  | some v => return .char v
  | none =>
  match category? letter with
  | some c => return .category c
  | none =>
  if letter = 'x' then return .char (← hexEscape 'x' 2)
  else if letter = 'u' then return .char (← hexEscape 'u' 4)
  else if letter = 'U' then return .char (← hexEscape 'U' 8)
  else if letter = 'N' then return .char (← namedEscape fuel)
  else if Text.isOctalDigit letter then
    let ds ← takeWhileUpTo Text.isOctalDigit 2
    let escape := '\\' :: letter :: ds
    let v := Text.octalNumber (letter :: ds)
    if v > 0o377 then fail (.octalOutOfRange (String.ofList escape)) escape.length
    return .char v
  else if Text.isAsciiDigit letter ∨ Text.isAsciiLetter letter then
    fail (.badEscape (String.ofList ['\\', letter])) 2
  else return .char letter.toNat

/-- What an escape outside a set stands for. -/
def escapeNode (fuel : Nat) (letter : Char) : ReadM Node := do
  match letter with
  | 'A' => return .anchor .textStart
  | 'b' => return .anchor .boundary
  | 'B' => return .anchor .nonBoundary
  | 'Z' => return .anchor .textEnd
  | _ =>
  match category? letter with
  | some c => return categoryNode c
  | none =>
  match controlEscape? letter with
  | some v => return .char v
  | none =>
  if letter = 'x' then return .char (← hexEscape 'x' 2)
  else if letter = 'u' then return .char (← hexEscape 'u' 4)
  else if letter = 'U' then return .char (← hexEscape 'U' 8)
  else if letter = 'N' then return .char (← namedEscape fuel)
  else if letter = '0' then
    let ds ← takeWhileUpTo Text.isOctalDigit 2
    return .char (Text.octalNumber ('0' :: ds))
  else if Text.isAsciiDigit letter then
    let mut digits := [letter]
    match ← peek with
    | some (.plain d) =>
      if Text.isAsciiDigit d then
        advance
        digits := [letter, d]
        if Text.isOctalDigit letter ∧ Text.isOctalDigit d ∧ (← nextIs Text.isOctalDigit) then
          let e := ((← take).map Token.chars).getD []
          let ds := letter :: d :: e
          let v := Text.octalNumber ds
          if v > 0o377 then fail (.octalOutOfRange (String.ofList ('\\' :: ds))) (ds.length + 1)
          return .char v
    | _ => pure ()
    let g := Text.decimalNumber digits
    if g < (← groupCount) then
      match ← closedWidth? g with
      | none => fail .openGroupReference (digits.length + 1)
      | some (lo, hi) =>
        checkLookbehindReference g
        return .backref g lo hi
    else fail (.invalidGroupReference g) digits.length
  else if Text.isAsciiLetter letter then
    fail (.badEscape (String.ofList ['\\', letter])) 2
  else return .char letter.toNat

def uniq {α : Type} [DecidableEq α] (xs : List α) : List α :=
  xs.foldl (fun acc x => if acc.contains x then acc else acc ++ [x]) []

/-- The node a set becomes: a set of one character is that character, or all characters but it. -/
def setNode (negated : Bool) (items : List SetItem) : Node :=
  match uniq items with
  | [.char c] => if negated then .notChar c else .char c
  | items' => .set negated items'

/-- Reads the members of a set after its `[`, up to and including its `]`. -/
def readSetItems (fuel : Nat) (start : Nat) : Nat → List SetItem → ReadM (List SetItem)
  | 0, _ => throw { fault := .tooComplex }
  | n + 1, acc => do
    let this ← take
    match this with
    | none => do
      let here ← tell
      fail .unterminatedSet (here - start)
    | some this =>
      if this = .plain ']' ∧ !acc.isEmpty then return acc
      let code1 ← match this with
        | .escaped e => classEscape fuel e
        | .plain c => pure (SetItem.char c.toNat)
      if ← accept '-' then
        let that ← take
        match that with
        | none =>
          let here ← tell
          fail .unterminatedSet (here - start)
        | some that =>
          if that = .plain ']' then
            return acc ++ [code1, .char '-'.toNat]
          let code2 ← match that with
            | .escaped e => classEscape fuel e
            | .plain c => pure (SetItem.char c.toNat)
          match code1, code2 with
          | .char lo, .char hi =>
            if hi < lo then fail (.badRange this.text that.text) (this.width + 1 + that.width)
            readSetItems fuel start n (acc ++ [.range lo hi])
          | _, _ => fail (.badRange this.text that.text) (this.width + 1 + that.width)
      else readSetItems fuel start n (acc ++ [code1])

/-- Whether two nodes without sub-patterns are the same; nodes with sub-patterns never are. -/
def sameLeaf : Node → Node → Bool
  | .char a, .char b => a == b
  | .notChar a, .notChar b => a == b
  | .any, .any => true
  | .set n₁ i₁, .set n₂ i₂ => n₁ == n₂ && i₁ == i₂
  | .anchor a, .anchor b => a == b
  | .backref a _ _, .backref b _ _ => a == b
  | _, _ => false

/-- Takes the node that starts every alternative out in front of them, as long as there is one. -/
def hoist : Nat → List (List Node) → List Node × List (List Node)
  | 0, alts => ([], alts)
  | fuel + 1, alts =>
    match alts with
    | (n :: _) :: rest =>
      if rest.all (fun a => match a with
          | m :: _ => sameLeaf n m
          | [] => false) then
        let (front, alts') := hoist fuel (alts.map List.tail)
        (n :: front, alts')
      else ([], alts)
    | _ => ([], alts)

/-- The set that alternatives of single characters and sets without negation make, if they are
all such. -/
def asSet : List (List Node) → Option (List SetItem)
  | [] => some []
  | [.char c] :: rest => (asSet rest).map (.char c :: ·)
  | [.set false items] :: rest => (asSet rest).map (items ++ ·)
  | _ => none

/-- The sequence that alternatives make. -/
def alternativesNode : List (List Node) → List Node
  | [single] => single
  | alts =>
    let (front, alts') := hoist (alts.foldl (fun m a => max m a.length) 0) alts
    match asSet alts' with
    | some items => front ++ [.set false (uniq items)]
    | none => front ++ [.branch alts']

def dissolve (nodes : List Node) : List Node :=
  nodes.flatMap fun n => match n with
    | .group none add del body => if add.isEmpty ∧ del.isEmpty then body else [n]
    | _ => [n]

def isVerboseBlank (c : Char) : Bool :=
  c = ' ' || c = '\t' || c = '\n' || c = '\r' || c = '\x0b' || c = '\x0c'

/-- Skips a verbose-mode comment up to and including the line feed. -/
def skipComment : Nat → ReadM Unit
  | 0 => return
  | n + 1 => do
    match ← take with
    | none => return
    | some t => if t = .plain '\n' then return else skipComment n

def flagOf? : Token → Option Flags
  | .plain c => Flags.ofLetter? c
  | .escaped _ => none

def isLetterToken : Token → Bool
  | .plain c => Text.Unicode.isLetter c.toNat
  | .escaped _ => false

/-- Reads flags to add, from the letter in hand on, up to `)`, `-` or `:`; gives the flags and
the token that ended them. -/
def readAddFlags : Nat → Token → Flags → ReadM (Flags × Token)
  | 0, _, _ => throw { fault := .tooComplex }
  | n + 1, char, add => do
    let flag := (flagOf? char).getD {}
    if char = .plain 'L' then fail .localeFlag
    let add := add.union flag
    let classFlags : Flags := { ascii := add.ascii, unicode := add.unicode, locale := add.locale }
    if flag.hasTypeFlag ∧ classFlags ≠ flag then fail .incompatibleFlags
    match ← take with
    | none => fail .missingFlagEnd
    | some c =>
      if c = .plain ')' ∨ c = .plain '-' ∨ c = .plain ':' then return (add, c)
      else if (flagOf? c).isNone then
        if isLetterToken c then fail .unknownFlag c.width else fail .missingFlagEnd c.width
      else readAddFlags n c add

/-- Reads flags to remove, from the letter in hand on, up to `:`. -/
def readRemovedFlags : Nat → Token → Flags → ReadM Flags
  | 0, _, _ => throw { fault := .tooComplex }
  | n + 1, char, del => do
    let flag := (flagOf? char).getD {}
    if flag.hasTypeFlag then fail .classFlagTurnedOff
    let del := del.union flag
    match ← take with
    | none => fail .missingColon
    | some c =>
      if c = .plain ':' then return del
      else if (flagOf? c).isNone then
        if isLetterToken c then fail .unknownFlag c.width else fail .missingColon c.width
      else readRemovedFlags n c del

/-- Reads an inline flag group after `(?`, starting with the token `first`: `none` for flags of
the whole pattern (the group ends at `)`), or the flags a scoped group adds and removes. -/
def readFlags (first : Token) (fuel : Nat) : ReadM (Option (Flags × Flags)) := do
  let (add, char) ← if first ≠ .plain '-' then readAddFlags fuel first {} else pure ({}, first)
  if char = .plain ')' then
    modify fun s => { s with flags := s.flags.union add }
    return none
  if add.template then fail .globalFlagTurnedOn 1
  let del ← if char = .plain '-' then
      match ← take with
      | none => fail .missingFlag
      | some c =>
        if (flagOf? c).isNone then
          if isLetterToken c then fail .unknownFlag c.width else fail .missingFlag c.width
        else readRemovedFlags fuel c {}
    else pure {}
  if del.template then fail .globalFlagTurnedOff 1
  if add.meets del then fail .flagOnAndOff 1
  return some (add, del)

mutual

/-- Reads alternatives separated by `|`, up to a `)` or the end. -/
def readAlternatives (fuel : Nat) (verbose : Bool) (nested : Nat) : ReadM (List Node) :=
  match fuel with
  | 0 => throw { fault := .tooComplex }
  | n + 1 => do
    let alts ← readAlternativeList n verbose nested []
    return alternativesNode alts

/-- Reads the remaining alternatives after those in `acc`. -/
def readAlternativeList (fuel : Nat) (verbose : Bool) (nested : Nat) (acc : List (List Node)) :
    ReadM (List (List Node)) :=
  match fuel with
  | 0 => throw { fault := .tooComplex }
  | n + 1 => do
    let item ← readSequence n verbose (nested + 1) (nested == 0 && acc.isEmpty)
    let acc := acc ++ [item]
    if ← accept '|' then
      let s ← get
      let verbose := if nested == 0 then s.flags.verbose else verbose
      readAlternativeList n verbose nested acc
    else return acc

/-- Reads one alternative: nodes up to a `|`, a `)` or the end. -/
def readSequence (fuel : Nat) (verbose : Bool) (nested : Nat) (first : Bool) : ReadM (List Node) :=
  match fuel with
  | 0 => throw { fault := .tooComplex }
  | n + 1 => do
    let nodes ← readNodes n verbose nested first #[]
    return dissolve nodes.toList

/-- Reads nodes into `acc` up to a `|`, a `)` or the end. -/
def readNodes (fuel : Nat) (verbose : Bool) (nested : Nat) (first : Bool) (acc : Array Node) :
    ReadM (Array Node) :=
  match fuel with
  | 0 => throw { fault := .tooComplex }
  | n + 1 => do
    match ← peek with
    | none => return acc
    | some this =>
    if this = .plain '|' ∨ this = .plain ')' then return acc
    advance
    match this with
    | .escaped e =>
      let node ← escapeNode n e
      readNodes n verbose nested first (acc.push node)
    | .plain c =>
    if verbose ∧ isVerboseBlank c then readNodes n verbose nested first acc
    else if verbose ∧ c = '#' then
      skipComment n
      readNodes n verbose nested first acc
    else if c = '[' then
      let here := (← tell) - 1
      let negated ← accept '^'
      let items ← readSetItems n here n []
      readNodes n verbose nested first (acc.push (setNode negated items))
    else if c = '?' ∨ c = '*' ∨ c = '+' ∨ c = Char.ofNat 0x7B then
      let here ← tell
      let bounds? : Option (Nat × Option Nat) ← do
        if c = '?' then pure (some (0, some 1))
        else if c = '*' then pure (some (0, none))
        else if c = '+' then pure (some (1, none))
        else if (← peek) = some (.plain (Char.ofNat 0x7D)) then pure none
        else
          let lo ← takeDigits n
          let hi ← if ← accept ',' then takeDigits n else pure lo
          if !(← accept (Char.ofNat 0x7D)) then
            seek here
            pure none
          else
            let min ← if lo.isEmpty then pure 0 else repeatCount lo
            let max : Option Nat ← if hi.isEmpty then pure none else some <$> repeatCount hi
            match max with
            | some m =>
              if m < min then
                let now ← tell
                fail .minAboveMax (now - here)
            | none => pure ()
            pure (some (min, max))
      match bounds? with
      | none => readNodes n verbose nested first (acc.push (.char c.toNat))
      | some (min, max) =>
        let now ← tell
        let offset := now - here + 1
        match acc.back? with
        | none => fail .nothingToRepeat offset
        | some (.anchor _) => fail .nothingToRepeat offset
        | some (.quantified _ _ _ _) => fail .multipleRepeat offset
        | some last =>
          let body := match last with
            | .group none add del b => if add.isEmpty ∧ del.isEmpty then b else [last]
            | _ => [last]
          let greed ← do
            if ← accept '?' then pure Greed.lazy
            else if ← accept '+' then pure Greed.possessive
            else pure Greed.greedy
          readNodes n verbose nested first (acc.pop.push (.quantified min max greed body))
    else if c = '.' then readNodes n verbose nested first (acc.push .any)
    else if c = '^' then readNodes n verbose nested first (acc.push (.anchor .lineStart))
    else if c = '$' then readNodes n verbose nested first (acc.push (.anchor .lineEnd))
    else if c = '(' then
      match ← readGroup n verbose nested first acc.isEmpty with
      | .node node => readNodes n verbose nested first (acc.push node)
      | .nothing => readNodes n verbose nested first acc
      | .globalFlags => readNodes n (← get).flags.verbose nested first acc
    else readNodes n verbose nested first (acc.push (.char c.toNat))

/-- Reads a group after its `(`. -/
def readGroup (fuel : Nat) (verbose : Bool) (nested : Nat) (first : Bool) (atStart : Bool) :
    ReadM GroupResult :=
  match fuel with
  | 0 => throw { fault := .tooComplex }
  | n + 1 => do
    let start := (← tell) - 1
    if !(← accept '?') then
      let g ← openGroup none
      readGroupBody n verbose nested start (some g) false {} {}
    else
    match ← take with
    | none => fail .unexpectedEnd
    | some char =>
    if char = .plain 'P' then
      if ← accept '<' then
        let name ← takeUntil '>' "group name" n []
        checkGroupName name 1
        let g ← openGroup (some (String.ofList name))
        readGroupBody n verbose nested start (some g) false {} {}
      else if ← accept '=' then
        let name ← takeUntil ')' "group name" n []
        checkGroupName name 1
        match (← get).names.lookup (String.ofList name) with
        | none => fail (.unknownGroupName (String.ofList name)) (name.length + 1)
        | some g =>
          match ← closedWidth? g with
          | none => fail .openGroupReference (name.length + 1)
          | some (lo, hi) =>
            checkLookbehindReference g
            return .node (.backref g lo hi)
      else
        match ← take with
        | none => fail .unexpectedEnd
        | some c => fail (.unknownExtension ("?P" ++ c.text)) (c.width + 2)
    else if char = .plain ':' then
      readGroupBody n verbose nested start none false {} {}
    else if char = .plain '#' then
      skipGroupComment n start
      return .nothing
    else if char = .plain '=' ∨ char = .plain '!' ∨ char = .plain '<' then
      let mut kind := char
      let mut behind := false
      let outer := (← get).lookbehindGroups
      if char = .plain '<' then
        match ← take with
        | none => fail .unexpectedEnd
        | some c =>
          if c ≠ .plain '=' ∧ c ≠ .plain '!' then
            fail (.unknownExtension ("?<" ++ c.text)) (c.width + 2)
          kind := c
          behind := true
          if outer.isNone then
            let count ← groupCount
            modify fun s => { s with lookbehindGroups := some count }
      let body ← readAlternatives n verbose (nested + 1)
      if behind ∧ outer.isNone then
        modify fun s => { s with lookbehindGroups := none }
      if !(← accept ')') then
        let now ← tell
        fail .unterminatedSubpattern (now - start)
      return .node (.look behind (kind = .plain '=') body)
    else if char = .plain '(' then
      let name ← takeUntil ')' "group name" n []
      let nameText := String.ofList name
      let g ← if Text.Unicode.isIdentifier nameText then
          match (← get).names.lookup nameText with
          | none => fail (.unknownGroupName nameText) (name.length + 1)
          | some g => pure g
        else
          match integerValue? name with
          | none => fail (.badGroupName nameText) (name.length + 1)
          | some v =>
            if v < 0 then fail (.badGroupName nameText) (name.length + 1)
            let g := v.toNat
            if g = 0 then fail .badGroupNumber (name.length + 1)
            if g ≥ maxGroups then fail (.invalidGroupReference g) (name.length + 1)
            let s ← get
            if (s.conditionRefs.lookup g).isNone then
              let now ← tell
              set { s with conditionRefs := s.conditionRefs ++ [(g, now - name.length - 1)] }
            pure g
      checkLookbehindReference g
      let yes ← readSequence n verbose (nested + 1) false
      let no ← if ← accept '|' then
          let no ← readSequence n verbose (nested + 1) false
          if (← peek) = some (.plain '|') then fail .conditionalBranches
          pure (some no)
        else pure none
      if !(← accept ')') then
        let now ← tell
        fail .unterminatedSubpattern (now - start)
      return .node (.conditional g yes no)
    else if char = .plain '>' then
      readGroupBody n verbose nested start none true {} {}
    else if (match char with
        | .plain c => (Flags.ofLetter? c).isSome || c = '-'
        | .escaped _ => false) then
      match ← readFlags char n with
      | none =>
        if !first ∨ !atStart then
          let now ← tell
          fail .globalFlagsNotAtStart (now - start)
        return .globalFlags
      | some (add, del) => readGroupBody n verbose nested start none false add del
    else fail (.unknownExtension ("?" ++ char.text)) (char.width + 1)

/-- Reads a group's body and its `)`. -/
def readGroupBody (fuel : Nat) (verbose : Bool) (nested : Nat) (start : Nat) (index : Option Nat)
    (atomic : Bool) (add del : Flags) : ReadM GroupResult :=
  match fuel with
  | 0 => throw { fault := .tooComplex }
  | n + 1 => do
    let innerVerbose := (verbose || add.verbose) && !del.verbose
    let body ← readAlternatives n innerVerbose (nested + 1)
    if !(← accept ')') then
      let now ← tell
      fail .unterminatedSubpattern (now - start)
    match index with
    | some g => closeGroup g body
    | none => pure ()
    if atomic then return .node (.atomic body)
    else return .node (.group index add del body)

/-- Skips a comment group up to its `)`. -/
def skipGroupComment (fuel : Nat) (start : Nat) : ReadM Unit :=
  match fuel with
  | 0 => throw { fault := .tooComplex }
  | n + 1 => do
    if (← peek).isNone then
      let now ← tell
      fail .unterminatedComment (now - start)
    if (← take) = some (.plain ')') then return
    skipGroupComment n start

end

end Read

/-- The reader's state before the first token. -/
def ReadState.initial : ReadState where
  index := 0
  next := none
  flags := {}
  widths := #[none]
  names := []
  lookbehindGroups := none
  conditionRefs := []

/-- Reads a whole pattern: its nodes, its flags (character classes follow Unicode unless the
pattern asks for ASCII) and its number of groups. -/
def readPattern : ReadM Pattern := do
  let pat ← read
  let fuel := 16 * (pat.size + 4)
  Read.advance
  let nodes ← Read.readAlternatives fuel false 0
  let s ← get
  if s.flags.ascii ∧ s.flags.unicode then throw { fault := .asciiAndUnicode }
  let flags := if s.flags.ascii then s.flags else { s.flags with unicode := true }
  if s.next.isSome then Read.fail .unbalancedParenthesis
  for (g, pos) in s.conditionRefs do
    if g ≥ s.widths.size then throw { fault := .invalidGroupReference g, position := some pos }
  return { nodes, flags, groups := s.widths.size }

def parse (pattern : String) : Except Error Pattern :=
  match (readPattern pattern.toList.toArray).run ReadState.initial with
  | .ok (p, _) => .ok p
  | .error e => .error e

end DiagnosticCheck.Regex
