import DebugConsole.Program

/-!
# The command line

The program in line mode as a process: it finds its configuration in the environment, leaves the
files it made, and ends with the exit code of its run. It knows no files but the directories that
lead to its working directory. No message bus can be reached from here, so a start that gets as far
as the bus fails there.
-/

namespace DebugConsole

/-- The environment variables that configure the program. -/
def Config.variables : List String :=
  ["DEBUGBOX_BUS", "DEBUGBOX_SERVICE", "DEBUGBOX_SYMBOLS", "DEBUGBOX_HISTORY", "DEBUGBOX_BITNESS",
   "DEBUGBOX_LOG"]

/-- The transport of a process that has no bus: every call fails. -/
def Transport.none : Transport Unit := fun call s =>
  (.failed "org.freedesktop.DBus.Error.Disconnected" call.member, s)

/-- The file tree that holds a working directory and nothing else. -/
def FileTree.ofWorkingDirectory (path : String) : FileTree :=
  let here := (path.splitOn "/").filter (!·.isEmpty)
  ⟨(List.range here.length).map fun n => (here.take (n + 1), .directory), here⟩

end DebugConsole

open DebugConsole

/-- Runs the program on the environment and the working directory of the process. -/
def main : IO UInt32 := do
  let values ← Config.variables.mapM fun name => return (name, ← IO.getEnv name)
  let world : World :=
    { environment := fun name => (values.lookup name).join
      files := FileTree.ofWorkingDirectory (← IO.currentDir).toString
      reachable := fun _ => false }
  let report := Program.run world Transport.none [] ()
  for (place, node) in report.files.nodes do
    if let .file bytes := node then
      IO.FS.writeBinFile ("/" ++ "/".intercalate place) ⟨bytes.toArray⟩
  IO.print report.terminal.out
  IO.eprint report.terminal.err
  return report.exitCode
