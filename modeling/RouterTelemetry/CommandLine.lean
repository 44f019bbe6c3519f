import RouterTelemetry.Config.Basic

/-!
# The command line

What the agent is asked to do: to run with a configuration, or to say what it is. The path of the
configuration is taken from the option, else from the environment, else it is the standard one.
-/

namespace RouterTelemetry

/-- What a command line asks for. A line that is not understood is refused. -/
inductive Command where
  | run (config : String)
  | version
  | help
  | refused
deriving DecidableEq, Repr

namespace Command

/-- The name of the program. -/
def programName : String := "netmon-agent"

/-- The variable that holds the path of the configuration. -/
def pathVariable : String := "NETMON_CONFIG"

/-- What starts the option for the path, if its value stands behind an equals sign. -/
def assignment : String := "--config="

/-- A path; the empty text is none. -/
def path? (s : String) : Option String :=
  if s.isEmpty then none else some s

/-- Whether an argument can be the value of an option. -/
def isValue (s : String) : Bool :=
  !s.startsWith "-" || s == "-"

/-- Reads arguments behind those that gave the path `given`. A request for help or the version is met as
soon as it is read. The variable counts only where no path is given. -/
def ofArgs (fallback : Option String) (given : Option String) : List String → Command
  | [] =>
    match given, fallback with
    | some p, _ => .run p
    | none, some v =>
      match path? v with
      | some p => .run p
      | none => .refused
    | none, none => .run Config.standardPath
  | "--config" :: value :: rest =>
    if given.isSome || !isValue value then .refused
    else match path? value with
      | some p => ofArgs fallback (some p) rest
      | none => .refused
  | "--" :: [] => ofArgs fallback given []
  | a :: rest =>
    if a == "--version" || a.startsWith "-V" then .version
    else if a == "--help" || a.startsWith "-h" then .help
    else if a.startsWith assignment && given.isNone then
      match path? (String.ofList (a.toList.drop assignment.length)) with
      | some p => ofArgs fallback (some p) rest
      | none => .refused
    else .refused

/-- What a command line asks for, with the variables of the environment. -/
def parse (args : List String) (vars : List (String × String)) : Command :=
  ofArgs (vars.lookup pathVariable) none args

/-- What is said about the version. -/
def versionText (version : String) : String :=
  programName ++ " " ++ version ++ "\n"

/-- What is said about the options. The value of the variable is shown. -/
def helpText (vars : List (String × String)) : String :=
  "Router network telemetry agent\n\nUsage: " ++ programName ++ " [OPTIONS]\n\nOptions:\n"
    ++ "      --config <CONFIG>  Path to the YAML configuration file [env: " ++ pathVariable ++ "="
    ++ (vars.lookup pathVariable).getD "" ++ "] [default: " ++ Config.standardPath ++ "]\n"
    ++ "  -h, --help             Print help\n"
    ++ "  -V, --version          Print version\n"

end Command

end RouterTelemetry
