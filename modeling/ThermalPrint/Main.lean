import ThermalPrint.CommandLine.Run

/-! The program. It opens no sockets itself: there is no way to any printer from where it runs. -/

namespace ThermalPrint.Program

/-- Whether something can be opened at a path. -/
def isPresent (path : String) : IO Bool := do
  try
    let _ ← IO.FS.Handle.mk path .read
    return true
  catch _ => return false

/-- What is at a path: a file with its text, or else a directory. -/
def readText (path : String) : IO Files := do
  try return [(path, ← IO.FS.readFile path)]
  catch _ => return if ← isPresent path then [(path ++ "/", "")] else []

/-- The variables of the running process. -/
def environment : IO Environment := do
  let text := ((← readText "/proc/self/environ").head?.map (·.2)).getD ""
  return (Text.split '\x00' text.toList).filterMap fun cs =>
    (Text.splitFirst '=' cs).map fun (name, value) => (String.ofList name, String.ofList value)

/-- The files that a run may read, with a mark for the directory of a working copy. -/
def place (args : List String) : IO CommandLine.Place := do
  let copy := CommandLine.Request.workingCopy
  let mark : Files := if ← isPresent copy then [(copy ++ "/", "")] else []
  let start : CommandLine.Place :=
    ⟨(← readText ".env") ++ mark, ← environment, Network.noRoute⟩
  let files ← (CommandLine.mayRead start args).mapM readText
  return { start with files := start.files ++ files.flatten }

end ThermalPrint.Program

open ThermalPrint in
def main (args : List String) : IO UInt32 := do
  let report := CommandLine.run (← Program.place args) args
  (← IO.getStdout).putStr report.output
  let errors ← IO.getStderr
  match report.critical with
  | some text => errors.putStr s!"\n❌ CRITICAL ERROR: {text}\n"
  | none => if report.exitCode ≠ 0 then errors.putStr CommandLine.usageText
  return report.exitCode.toUInt32
