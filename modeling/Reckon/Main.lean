import Reckon.CommandLine.Program

/-!
# The command line

Reads the arguments and, where it is asked for, the standard input, and writes the report.
-/

open Reckon.CommandLine

/-- Everything that is left in a stream, after what was read before. -/
partial def readRest (stream : IO.FS.Stream) (before : ByteArray) : IO ByteArray := do
  let chunk ← stream.read 65536
  if chunk.isEmpty then return before else readRest stream (before ++ chunk)

/-- Everything that is piped in; nothing from a terminal. -/
def readInput : IO ByteArray := do
  let stdin ← IO.getStdin
  if ← stdin.isTty then return .empty else readRest stdin .empty

def main (args : List String) : IO UInt32 := do
  let input ← match Invocation.parse args with
    | .ok i => if i.readsInput then readInput else pure .empty
    | .error _ => pure .empty
  let report := program args input
  (← IO.getStdout).putStr report.stdout
  (← IO.getStderr).putStr report.stderr
  return report.exitCode.toUInt32
