import DiagnosticCheck.Text.Cite
import DiagnosticCheck.Text.Utf8
import DiagnosticCheck.Text.Basic
import DiagnosticCheck.Crash

/-!
# Files of a workspace

The files a command reads, each with its path relative to the working directory and its bytes;
directories are the parents of files. A path holding a NUL character is refused before anything
is read, and one longer than 4095 bytes fails at once. Otherwise reading follows the path one
part at a time: `.` stays, `..` goes up (above the working directory nothing is known to exist),
and a part that names a file where a directory is needed, a missing part, a part longer than 255
bytes, and a path that ends at a directory each fail with the system's error. Paths may also be
given in normal form, which drops empty and `.` parts and trailing slashes and writes the empty
path as `.`.
-/

namespace DiagnosticCheck

/-- The files of a workspace: paths relative to the working directory, with their bytes. A later
file with the same path replaces an earlier one. -/
structure Workspace where
  files : List (String × List Nat)
  deriving Repr, Inhabited

/-- Why reading a file failed. -/
inductive ReadFailure where
  | nulInPath
  | notFound (path : String)
  | isDirectory (path : String)
  | notDirectory (path : String)
  | nameTooLong (path : String)
  | undecodable (e : Text.Utf8Error)
  deriving Repr, DecidableEq

/-- The text of a read failure. -/
def ReadFailure.message : ReadFailure → String
  | .nulInPath => "embedded null byte"
  | .notFound p => "[Errno 2] No such file or directory: " ++ Text.cite p
  | .isDirectory p => "[Errno 21] Is a directory: " ++ Text.cite p
  | .notDirectory p => "[Errno 20] Not a directory: " ++ Text.cite p
  | .nameTooLong p => "[Errno 36] File name too long: " ++ Text.cite p
  | .undecodable e => e.message

/-- The crash of reading a path that holds a NUL character: it is refused as a value, before any
file is looked for. -/
def ReadFailure.nulCrash : Crash := ⟨.value, ReadFailure.nulInPath.message⟩

def maxPathBytes : Nat := 4095

def maxNameBytes : Nat := 255

def pathParts (path : String) : List String :=
  Text.splitOnChar path '/'

/-- A path in normal form: empty and `.` parts dropped, `.` for no part at all; a leading slash,
or exactly two, is kept. -/
def normalPath (path : String) : String :=
  let parts := (pathParts path).filter (fun p => p ≠ "" ∧ p ≠ ".")
  let root := if Text.startsWith path "//" ∧ !Text.startsWith path "///" then "//"
    else if Text.startsWith path "/" then "/" else ""
  let body := "/".intercalate parts
  if root = "" ∧ body = "" then "." else root ++ body

def baseName (path : String) : String :=
  String.ofList (path.toList.reverse.takeWhile (· ≠ '/')).reverse

namespace Workspace

def fileAt? (w : Workspace) (parts : List String) : Option (List Nat) :=
  match (w.files.reverse.find? fun f => (pathParts f.1).filter (· ≠ "") = parts) with
  | some f => some f.2
  | none => none

def isDirectory (w : Workspace) (parts : List String) : Bool :=
  parts.isEmpty || w.files.any fun f =>
    let fp := (pathParts f.1).filter (· ≠ "")
    parts.length < fp.length && parts.isPrefixOf fp

/-- Where a walk along a path stands: at a directory of the workspace, given by its parts, or
above the working directory, where nothing is known to exist. -/
inductive Place where
  | at (dir : List String)
  | above

/-- Follows the parts of a path from a place. `trailing` tells whether the path ends with a
slash; errors cite the path as `shown`. -/
def walk (w : Workspace) (shown : String) (trailing : Bool) :
    Place → List String → Except ReadFailure (List Nat)
  | _, [] => .error (.isDirectory shown)
  | place, part :: rest =>
    if part = "." then walk w shown trailing place rest
    else if part = ".." then
      let up := match place with
        | .at (d :: ds) => Place.at (d :: ds).dropLast
        | _ => Place.above
      walk w shown trailing up rest
    else if part.utf8ByteSize > maxNameBytes then .error (.nameTooLong shown)
    else
      match place with
      | .above => .error (.notFound shown)
      | .at dir =>
        let here := dir ++ [part]
        match w.fileAt? here with
        | some bytes =>
          if rest.isEmpty && !trailing then .ok bytes else .error (.notDirectory shown)
        | none =>
          if w.isDirectory here then walk w shown trailing (.at here) rest
          else .error (.notFound shown)

/-- The bytes of the file at a path, as the system reads it; errors cite the path as given. -/
def readBytes (w : Workspace) (path : String) : Except ReadFailure (List Nat) :=
  if path.toList.contains (Char.ofNat 0) then .error .nulInPath
  else if path.utf8ByteSize > maxPathBytes then .error (.nameTooLong path)
  else if path = "" ∨ Text.startsWith path "/" then .error (.notFound path)
  else
    let trailing := Text.startsWith (String.ofList path.toList.reverse) "/"
    w.walk path trailing (.at []) ((pathParts path).filter (· ≠ ""))

/-- The text of the file at a path, decoded as UTF-8. -/
def readText (w : Workspace) (path : String) : Except ReadFailure String := do
  let bytes ← w.readBytes path
  match Text.decodeUtf8 bytes with
  | .ok s => .ok s
  | .error e => .error (.undecodable e)

end Workspace

end DiagnosticCheck
