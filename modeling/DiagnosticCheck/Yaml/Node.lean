import DiagnosticCheck.Yaml.Parser
import DiagnosticCheck.Yaml.Resolve

/-!
# Nodes of a YAML document

The composer builds the document's graph of nodes from the events: scalars, sequences and mappings,
each with its tag, the guessed one where none is written. An anchor names a node and an alias
stands for the node it names, so a node may be reached twice or even from inside itself; nodes are
therefore kept in an array and referred to by index. A stream may hold at most one document.
-/

namespace DiagnosticCheck.Yaml

/-- The content of a node: a scalar's text, a sequence's items, a mapping's pairs, by index. -/
inductive NodeBody where
  | scalar (value : String)
  | sequence (items : Array Nat)
  | mapping (pairs : Array (Nat × Nat))
  deriving Repr, Inhabited

/-- A node: its tag, its content and where it starts. -/
structure Node where
  tag : String
  body : NodeBody
  start : Mark
  deriving Repr, Inhabited

/-- The name of a node's kind, as errors give it. -/
def Node.kindName (n : Node) : String :=
  match n.body with
  | .scalar _ => "scalar"
  | .sequence _ => "sequence"
  | .mapping _ => "mapping"

/-- The state of the composer: the parser, the nodes so far and the anchors of the document. -/
structure Composer where
  parser : Parser := {}
  nodes : Array Node := #[]
  anchors : List (String × Nat) := []
  deriving Repr

abbrev ComposeM := ReaderT (Array Char) (StateT Composer (Except Error))

namespace Compose

/-- Runs a parser action on the composer's parser. -/
def parse {α : Type} (x : ParseM α) : ComposeM α := do
  let text ← read
  let c ← get
  match (x.run text).run c.parser with
  | .ok (a, p) =>
    set { c with parser := p }
    return a
  | .error e => throw e

def addNode (n : Node) : ComposeM Nat := do
  let c ← get
  set { c with nodes := c.nodes.push n }
  return c.nodes.size

def nameNode (anchor : Option String) (id : Nat) : ComposeM Unit :=
  match anchor with
  | some a => modify fun c => { c with anchors := c.anchors ++ [(a, id)] }
  | none => pure ()

/-- The anchor of a node's first event. -/
def anchorOf : EventKind → Option String
  | .scalar a _ _ _ _ => a
  | .sequenceStart a _ _ _ => a
  | .mappingStart a _ _ _ => a
  | _ => none

def isSequenceEnd : EventKind → Bool
  | .sequenceEnd => true
  | _ => false

def isMappingEnd : EventKind → Bool
  | .mappingEnd => true
  | _ => false

def events : ComposeM Nat := do
  return 4 * (← read).size + 16

/-- Composes the node that starts at the next event, giving its index; `fuel` bounds the depth. -/
def node : Nat → ComposeM Nat
  | 0 => throw (.badValue .recursion "maximum recursion depth exceeded")
  | fuel + 1 => do
    let e ← parse Parse.peekEvent
    if let .alias a := e.kind then
      let _ ← parse Parse.getEvent
      match (← get).anchors.lookup a with
      | some id => return id
      | none => throw (Error.at none none ("found undefined alias " ++ Text.cite a) e.start)
    if let some a := anchorOf e.kind then
      if let some id := (← get).anchors.lookup a then
        let first := ((← get).nodes.getD id default).start
        throw (Error.at (some ("found duplicate anchor " ++ Text.cite a ++ "; first occurrence"))
          (some first) "second occurrence" e.start)
    match e.kind with
    | .scalar anchor tag implicit value _ =>
      let _ ← parse Parse.getEvent
      let tag := match tag with
        | some t => if t = "!" then scalarTag value implicit.1 else t
        | none => scalarTag value implicit.1
      let id ← addNode ⟨tag, .scalar value, e.start⟩
      nameNode anchor id
      return id
    | .sequenceStart anchor tag _ _ =>
      let _ ← parse Parse.getEvent
      let tag := match tag with
        | some t => if t = "!" then seqTag else t
        | none => seqTag
      let id ← addNode ⟨tag, .sequence #[], e.start⟩
      nameNode anchor id
      let mut items : Array Nat := #[]
      for _ in [0:(← events)] do
        if isSequenceEnd (← parse Parse.peekEvent).kind then break
        items := items.push (← node fuel)
      let _ ← parse Parse.getEvent
      modify fun c => { c with nodes := c.nodes.modify id fun n => { n with body := .sequence items } }
      return id
    | .mappingStart anchor tag _ _ =>
      let _ ← parse Parse.getEvent
      let tag := match tag with
        | some t => if t = "!" then mapTag else t
        | none => mapTag
      let id ← addNode ⟨tag, .mapping #[], e.start⟩
      nameNode anchor id
      let mut pairs : Array (Nat × Nat) := #[]
      for _ in [0:(← events)] do
        if isMappingEnd (← parse Parse.peekEvent).kind then break
        let k ← node fuel
        let v ← node fuel
        pairs := pairs.push (k, v)
      let _ ← parse Parse.getEvent
      modify fun c => { c with nodes := c.nodes.modify id fun n => { n with body := .mapping pairs } }
      return id
    | _ => throw (Error.at none none "expected a node" e.start)

def atStreamEnd : ComposeM Bool := do
  match (← parse Parse.peekEvent).kind with
  | .streamEnd => return true
  | _ => return false

/-- The root node of the stream's only document, if it has one. -/
def single : ComposeM (Option Nat) := do
  let _ ← parse Parse.getEvent
  let mut document : Option Nat := none
  if !(← atStreamEnd) then
    let _ ← parse Parse.getEvent
    let root ← node (← events)
    let _ ← parse Parse.getEvent
    modify fun c => { c with anchors := [] }
    document := some root
  if !(← atStreamEnd) then
    let e ← parse Parse.getEvent
    let nodes := (← get).nodes
    let first := document.map fun id => (nodes.getD id default).start
    throw (Error.at (some "expected a single document in the stream") first
      "but found another document" e.start)
  let _ ← parse Parse.getEvent
  return document

end Compose

end DiagnosticCheck.Yaml
