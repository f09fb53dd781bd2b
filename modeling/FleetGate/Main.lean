import FleetGate.CommandLine.Report
import FleetGate.Wire.Backend
import Std.Time.DateTime.Timestamp

/-!
# The program

Reads the command line, the environment and the settings file, and prints the answer. No transport
is built in, so the program serves what needs no cluster.
-/

namespace FleetGate.Main

/-- The variables that are set. -/
def environment : IO Environment :=
  (CallOptions.emailVariable :: Environment.variableNames).filterMapM fun name => do
    return (← IO.getEnv name).map fun value => (name, value)

/-- What stands at a path. -/
def readFile (path : String) : IO FileContent := do
  try
    return .bytes (← IO.FS.readBinFile path).toList
  catch
    | .noFileOrDirectory _ _ _ => return .missing
    | _ => return .unreadable

/-- The present time. -/
def now : IO Time.Timestamp := do
  let t ← Std.Time.Timestamp.now
  return { seconds := t.toSecondsSinceUnixEpoch.val }

/-- The settings file of what a command line asks for. -/
def fileOf : Option Invocation → IO FileContent
  | some (.call o) => readFile (CommandLine.configPath o)
  | _ => return .missing

end FleetGate.Main

open FleetGate in
/-- Answers a command line. -/
def main (args : List String) : IO UInt32 := do
  let env ← Main.environment
  let invocation? := CommandLine.parse env args
  let around : CommandLine.Surroundings Unit := {
    env
    file := ← Main.fileOf invocation?
    now := ← Main.now
    backend? := fun _ => none
    world := () }
  let report := CommandLine.report around invocation?
  IO.print report.output
  report.error?.forM fun line => IO.eprintln line
  return report.exitCode.toUInt32
