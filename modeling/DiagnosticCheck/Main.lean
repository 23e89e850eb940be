import DiagnosticCheck.Command

/-!
# The program

Reads the files that the command line names (the sources, the output file and the settings file)
and standard input when the output is `-`, runs the command, prints what it prints and exits with
its code. A file that cannot be read is left out, so the command reports it as missing.
-/

open DiagnosticCheck

/-- The paths a command line may read: every argument that is not an option, each part of a
`FULL=SHORT` source before the `=`, and the values of options. -/
def candidatePaths (args : List String) : List String :=
  args.flatMap fun a =>
    let full := String.ofList (a.toList.takeWhile (· ≠ '='))
    let value := String.ofList ((a.toList.dropWhile (· ≠ '=')).drop 1)
    [a, full, value].filter (· ≠ "")

/-- Reads the files at some paths, leaving out those that cannot be read. -/
def readFiles : List String → IO (List (String × List Nat))
  | [] => pure []
  | p :: rest => do
    let later ← readFiles rest
    try
      let bytes ← IO.FS.readBinFile p
      return (p, bytes.toList.map (·.toNat)) :: later
    catch _ =>
      return later

/-- Reads standard input to its end. -/
partial def readAll (stream : IO.FS.Stream) (acc : String) : IO String := do
  let line ← stream.getLine
  if line.isEmpty then return acc else readAll stream (acc ++ line)

def main (args : List String) : IO UInt32 := do
  let files ← readFiles (candidatePaths args)
  let stdin ← if args.contains "-" then readAll (← IO.getStdin) "" else pure ""
  let outcome := Command.run { files } stdin args
  let out ← IO.getStdout
  out.putStr outcome.stdout
  out.flush
  return outcome.exitCode.toUInt32
