import DiagnosticCheck.Yaml.Value

/-!
# Loading a YAML text

Loading checks that the text holds only characters YAML allows, composes its single document,
and makes the document's value; an empty stream loads as null.
-/

namespace DiagnosticCheck.Yaml

/-- Whether YAML allows a character in a text: tab, line feed, carriage return, printable ASCII,
the next-line character, and the rest of Unicode from U+00A0 except U+FFFE and U+FFFF. -/
def isAllowed (c : Char) : Bool :=
  let n := c.toNat
  n = 0x09 || n = 0x0A || n = 0x0D || (0x20 ≤ n && n ≤ 0x7E) || n = 0x85 ||
    (0xA0 ≤ n && n ≤ 0xD7FF) || (0xE000 ≤ n && n ≤ 0xFFFD) || 0x10000 ≤ n

def buffer (text : String) : Array Char :=
  (text.toList ++ ['\x00']).toArray

/-- The value of the single document of a text, or null for an empty stream. -/
def load (text : String) : Except Error Data := do
  let cs := text.toList
  match cs.findIdx? (fun c => !isAllowed c) with
  | some i => throw (.unacceptable i (cs.getD i ' ').toNat)
  | none => pure ()
  let buf := buffer text
  let (root, composer) ← (Compose.single.run buf).run {}
  match root with
  | none => return .null
  | some id =>
    let nodes := composer.nodes
    let start : Build :=
      { made := Array.replicate nodes.size false, values := Array.replicate nodes.size none,
        pending := #[], retagged := Array.replicate nodes.size false }
    (Construct.document id |>.run nodes).run' start

def errorMessage (text : String) (e : Error) : String :=
  e.message (buffer text)

end DiagnosticCheck.Yaml
