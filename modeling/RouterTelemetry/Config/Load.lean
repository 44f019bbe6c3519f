import RouterTelemetry.Config.Basic
import RouterTelemetry.Config.Document
import RouterTelemetry.Config.Environment
import RouterTelemetry.Text.Utf8

/-!
# Reading a configuration

A configuration is read from a file and the environment, which has the last word. Each setting has to be of
its own kind; a value is never turned into another kind, and settings that the agent does not know are passed
over. Only a level that is no level is put up with: it leads to a complaint.

Where nothing can be read, it is settled here what is at fault. How that is put into words is left to what reads
documents and settings.
-/

namespace RouterTelemetry.Config

open Text

/-! ## The kinds of settings -/

def asText? : Value → Option String
  | .text s => some s
  | _ => none

def asBool? : Value → Option Bool
  | .bool b => some b
  | _ => none

/-- A number of at most so many bits. -/
def asNatural? (bits : Nat) : Value → Option Nat
  | .integer (.ofNat n) => if n < Nat.pow 2 bits then some n else none
  | _ => none

def asNaturals? (bits : Nat) : Value → Option (List Nat)
  | .list items => items.mapM (asNatural? bits)
  | _ => none

/-- The value of a setting, or the standard one where it is not set; `none` if it is of a wrong kind. -/
def field {α : Type} (entries : List (String × Value)) (name : String) (read : Value → Option α)
    (standard : α) : Option α :=
  match Table.find? name entries with
  | some v => read v
  | none => some standard

/-- The level that is set, and the complaint about it. -/
def logLevel? (entries : List (String × Value)) : Option (LogLevel × Option String) :=
  match Table.find? "log_level" entries with
  | some v => v.toJson?.map fun j => LogLevel.ofSetting j.sorted
  | none => some (.info, none)

/-- The address of the collector, which has an older name; only one of the two may be set. -/
def collectorUrl? (entries : List (String × Value)) : Option String :=
  match Table.find? "collector_url" entries, Table.find? "rails_base_url" entries with
  | some _, some _ => none
  | some v, none => asText? v
  | none, some v => asText? v
  | none, none => some ""

/-- The configuration that settings make up, with the complaint about the level. -/
def ofEntries? (es : List (String × Value)) : Option (Config × Option String) := do
  let d : Config := {}
  let number (name : String) (standard : Nat) := field es name (asNatural? 64) standard
  let (logLevel, complaint) ← logLevel? es
  let c : Config := {
    routerId := ← field es "router_id" asText? d.routerId
    collectorUrl := ← collectorUrl? es
    authToken := ← field es "auth_token" asText? d.authToken
    nflogGroups := ← field es "nflog_groups" (asNaturals? 16) d.nflogGroups
    dnsmasqLogPath := ← field es "dnsmasq_log_path" asText? d.dnsmasqLogPath
    metricsBind := ← field es "metrics_bind" asText? d.metricsBind
    batchMaxEvents := ← number "batch_max_events" d.batchMaxEvents
    batchMaxWaitMs := ← number "batch_max_wait_ms" d.batchMaxWaitMs
    queueDepth := ← number "queue_depth" d.queueDepth
    spoolDir := ← field es "spool_dir" asText? d.spoolDir
    spoolMaxBytes := ← number "spool_max_bytes" d.spoolMaxBytes
    qnameHashSalt := ← field es "qname_hash_salt" asText? d.qnameHashSalt
    qnameHashCap := ← number "qname_hash_cap" d.qnameHashCap
    emitConntrackNew := ← field es "emit_conntrack_new" asBool? d.emitConntrackNew
    httpTimeoutSecs := ← number "http_timeout_secs" d.httpTimeoutSecs
    httpRetryMax := ← field es "http_retry_max" (asNatural? 32) d.httpRetryMax
    httpRetryBaseMs := ← number "http_retry_base_ms" d.httpRetryBaseMs
    spoolReplayIntervalSecs := ← number "spool_replay_interval_secs" d.spoolReplayIntervalSecs
    heartbeatIntervalSecs := ← number "heartbeat_interval_secs" d.heartbeatIntervalSecs
    logLevel }
  some (c, complaint)

/-! ## What cannot be read -/

/-- Why sources cannot be read. -/
inductive Unreadable where
  /-- The file under a path, with this content, is no table of settings. -/
  | document (path : String) (bytes : Bytes)
  /-- A setting is of a wrong kind. The file under a path and the variables say this of it. -/
  | setting (path name : String) (inFile inVariables : Option Value)
  /-- A field is set under two names, of which this is the one in use. -/
  | twice (name : String)

/-- What is said where no other words are given. -/
def Unreadable.text : Unreadable → String
  | .document path _ => path ++ " is not a table of settings"
  | .setting _ name _ _ => name ++ " has the wrong kind"
  | .twice name => name ++ " is set under two names"

/-- The names of settings in the order in which they are read: that of the alphabet. -/
def readingOrder : List String :=
  ["auth_token", "batch_max_events", "batch_max_wait_ms", "collector_url", "dnsmasq_log_path", "emit_conntrack_new",
    "heartbeat_interval_secs", "http_retry_base_ms", "http_retry_max", "http_timeout_secs", "log_level", "metrics_bind",
    "nflog_groups", "qname_hash_cap", "qname_hash_salt", "queue_depth", "rails_base_url", "router_id", "spool_dir",
    "spool_max_bytes", "spool_replay_interval_secs"]

/-- What is wrong with the setting under a name, if it is there and does not make up a configuration even alone. The
older name of the collector's address is at fault as soon as the newer one is there. -/
def refusedAt? (path : String) (inFile inVariables : List (String × Value)) (name : String) : Option Unreadable :=
  let es := Value.mergeEntries inFile inVariables
  (Table.find? name es).bind fun v =>
    if name = "rails_base_url" ∧ (Table.find? "collector_url" es).isSome then some (.twice "collector_url")
    else if (ofEntries? [(name, v)]).isSome then none
    else some (.setting path name (Table.find? name inFile) (Table.find? name inVariables))

/-- What is wrong with the settings in a file and in variables: the first thing that is found. -/
def refused? (path : String) (inFile inVariables : List (String × Value)) : Option Unreadable :=
  readingOrder.findSome? (refusedAt? path inFile inVariables)

/-! ## The sources -/

/-- The configuration in a file under a path, which is `none` if there is no such file, and in the
variables of the environment. What cannot be read is put into the words of `say`. -/
def load (path : String) (file : Option Bytes) (vars : List (String × String))
    (say : Unreadable → String := Unreadable.text) : Except Error (Config × Option String) := do
  match file with
  | none => .error (.notFound path)
  | some bytes =>
    match (decodeUtf8? bytes).bind documentEntries? with
    | none => .error (.unreadable (say (.document path bytes)))
    | some entries =>
      let settings := Environment.settings vars
      match ofEntries? (Value.mergeEntries entries settings) with
      -- one of the settings is at fault, so the document is not
      | none => .error (.unreadable (say ((refused? path entries settings).getD (.document path bytes))))
      | some (c, complaint) => do
        let c ← c.withDefaults.validate
        return (c, complaint)

end RouterTelemetry.Config
