import RouterTelemetry.Json.Basic
import RouterTelemetry.Text.Blank
import RouterTelemetry.Text.Lowercase
/-!
# Verbosity

The level from which on the agent's log lines are written. A setting that names no level is never an error:
it is reported, and the level stays at `info`.
-/

namespace RouterTelemetry

open Text

/-- How much is logged, from least to most. -/
inductive LogLevel where
  | error
  | warn
  | info
  | debug
  | trace
deriving DecidableEq, Repr

namespace LogLevel

/-- The name of a level in log lines. -/
def name : LogLevel → String
  | .error => "ERROR"
  | .warn => "WARN"
  | .info => "INFO"
  | .debug => "DEBUG"
  | .trace => "TRACE"

/-- The name of a level in filters. -/
def directive (l : LogLevel) : String :=
  l.name.toLower

/-- How much a level lets through; a line passes if its own level has no more. -/
def rank : LogLevel → Nat
  | .error => 1
  | .warn => 2
  | .info => 3
  | .debug => 4
  | .trace => 5

/-- The level of a name in log lines. -/
def ofName? (s : String) : Option LogLevel :=
  [error, warn, info, debug, trace].find? (·.name == s)

/-- The level that a text names, without regard to case and to blanks around it. -/
def ofText? (s : String) : Option LogLevel :=
  match String.ofList (lowercase (trim s.toList)) with
  | "error" => some .error
  | "warn" => some .warn
  | "warning" => some .warn
  | "info" => some .info
  | "debug" => some .debug
  | "trace" => some .trace
  | _ => none

/-- What is said of a text that names no level. -/
def unknownMessage (s : String) : String :=
  "Invalid log level: '" ++ s ++ "'. Valid levels are: error, warn, info, debug, trace"

/-- What is said of a value that is not a text. -/
def notTextMessage (v : Json) : String :=
  "Expected a string for log level, got " ++ String.ofList v.annotated

/-- The level that a setting selects, and the complaint about it, if there is one. -/
def ofSetting (v : Json) : LogLevel × Option String :=
  match v with
  | .string s =>
    match ofText? s with
    | some l => (l, none)
    | none => (.info, some (unknownMessage s))
  | v => (.info, some (notTextMessage v))

end LogLevel

end RouterTelemetry
