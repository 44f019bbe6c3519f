import RouterTelemetry.Daemon

/-!
# The program

Reads what stands around the agent, runs its command line, and writes what it says. Connections are beyond
this front end: it has no page of counters, and it is asked to stop by the end of its standard input.
-/

namespace RouterTelemetry

/-- The variables of the environment that the agent takes note of. -/
def environment : IO (List (String × String)) := do
  let names := Command.pathVariable :: Config.settingNames.map fun n =>
    Config.Environment.mark ++ n.toUpper
  names.filterMapM fun n => do
    return (← IO.getEnv n).map (n, ·)

/-- The content of the file under a path, if it can be read. -/
def readFile? (path : String) : IO (Option Text.Bytes) := do
  try
    return some (← IO.FS.readBinFile path).toList
  catch _ => return none

/-- Makes a directory and those around it; gives the reason if that fails. -/
def makeDirectory? (path : String) : IO (Option String) := do
  try
    IO.FS.createDirAll path
    return none
  catch e => return some (toString e)

/-- What a command line finds around it. -/
def surroundings (args : List String) : IO Daemon.Host := do
  let vars ← environment
  let bare : Daemon.Host :=
    { file := fun _ => none, vars, makeDirectory := fun _ => none
      listen := fun _ => some "no connections here" }
  match Command.parse args vars with
  | .run path =>
    let content ← readFile? path
    let refusal ← match Config.load path content vars with
      | .ok (c, _) => makeDirectory? c.spoolDir
      | .error _ => pure none
    return { bare with file := fun _ => content, makeDirectory := fun _ => refusal }
  | _ => return bare

/-- Waits until a stream has ended. -/
partial def awaitEnd (s : IO.FS.Stream) : IO Unit := do
  unless (← s.getLine).isEmpty do awaitEnd s

end RouterTelemetry

open RouterTelemetry in
/-- Runs the agent. -/
def main (args : List String) : IO UInt32 := do
  let out ← IO.getStdout
  let outcome := Daemon.run (← surroundings args) args
  out.putStr (String.ofList outcome.opening)
  out.flush
  if let some closing := outcome.closing then
    awaitEnd (← IO.getStdin)
    out.putStr (String.ofList closing)
    out.flush
  return outcome.exitCode.toUInt32
