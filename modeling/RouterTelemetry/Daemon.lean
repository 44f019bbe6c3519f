import RouterTelemetry.CommandLine
import RouterTelemetry.Config.Load
import RouterTelemetry.Delivery.Request
import RouterTelemetry.LogLine
import RouterTelemetry.Sources
import RouterTelemetry.Spool.Basic

/-!
# The agent as a program

What the agent says and how it ends, from its command line on: it reads its configuration, makes the directory
of the spool and opens the page of its counters. Without the first two it cannot run; without the page it
can.
-/

namespace RouterTelemetry.Daemon

open Text (Bytes)

/-- What the agent finds around it. An operation that fails gives the reason. -/
structure Host where
  /-- The content of the file under a path, if there is one. -/
  file : String → Option Bytes
  vars : List (String × String)
  /-- Makes a directory and those around it. -/
  makeDirectory : String → Option String
  /-- Takes connections at an address. -/
  listen : String → Option String

/-- Something that is said. -/
structure Message where
  level : LogLevel
  text : String
deriving DecidableEq, Repr

/-- How a start went: what was said, how much of it is written, and the configuration to run with; without
one the agent has failed. -/
structure Start where
  level : LogLevel
  messages : List Message
  running : Option Config

/-- What is said at the start about a configuration. -/
def greeting (c : Config) : Message :=
  ⟨.info, "Starting netmon-agent " ++ Delivery.agentVersion ++ " for router " ++ c.routerId⟩

/-- What is said about a group of the firewall's log. -/
def groupMessage (group : Nat) : Message :=
  ⟨.info, "NFLOG group " ++ toString group ++ " logs the " ++ Sources.hook group ++ " hook"⟩

/-- What is said about the page of the counters. -/
def pageMessage (host : Host) (c : Config) : Message :=
  match host.listen c.metricsBind with
  | none => ⟨.info, "Serving metrics on " ++ c.metricsBind⟩
  | some reason =>
    ⟨.error, "Unable to bind metrics endpoint " ++ c.metricsBind ++ ": " ++ reason⟩

/-- Starts with the configuration under a path. -/
def start (host : Host) (path : String) : Start :=
  match Config.load path (host.file path) host.vars with
  | .error e =>
    ⟨.info, [⟨.error, "Invalid configuration in " ++ path ++ ": " ++ e.message⟩], none⟩
  | .ok (c, _) =>
    match host.makeDirectory c.spoolDir with
    | some reason =>
      ⟨c.logLevel, [greeting c,
        ⟨.error, "Unable to create spool at " ++ c.spoolDir ++ ": " ++ Spool.Error.storage.message
          ++ ": " ++ reason⟩], none⟩
    | none =>
      ⟨c.logLevel, greeting c :: c.nflogGroups.map groupMessage ++ [pageMessage host c], some c⟩

/-- What is said when the agent is asked to stop. -/
def farewell : List Message :=
  [⟨.info, "Shutdown requested"⟩, ⟨.info, "netmon-agent stopped"⟩]

/-- What is written of messages: those that are no less urgent than the level. -/
def written (level : LogLevel) (ms : List Message) : List Char :=
  (ms.filter fun m => m.level.rank ≤ level.rank).flatMap fun m => LogLine.plain m.level m.text

/-- A run of the program: what it writes up to where it waits, what it writes once it is asked to stop if
it waits at all, and its exit code. -/
structure Outcome where
  opening : List Char
  closing : Option (List Char)
  exitCode : UInt8

/-- Runs a command line. -/
def run (host : Host) (args : List String) : Outcome :=
  match Command.parse args host.vars with
  | .version => ⟨(Command.versionText Delivery.agentVersion).toList, none, 0⟩
  | .help => ⟨(Command.helpText host.vars).toList, none, 0⟩
  | .refused => ⟨[], none, 2⟩
  | .run path =>
    let s := start host path
    match s.running with
    | some _ => ⟨written s.level s.messages, some (written s.level farewell), 0⟩
    | none => ⟨written s.level s.messages, none, 1⟩

end RouterTelemetry.Daemon
