import RouterTelemetry.LogLevel
import RouterTelemetry.Net.SocketAddress
import RouterTelemetry.Text.Blank

/-!
# Configuration

The agent's settings, with the value that stands where nothing is set, and what a configuration has to
satisfy for the agent to run.
-/

namespace RouterTelemetry

open Text

/-- The settings of the agent. Sizes are in bytes, times in the unit that the name ends in. -/
structure Config where
  routerId : String := ""
  collectorUrl : String := ""
  authToken : String := ""
  nflogGroups : List Nat := []
  dnsmasqLogPath : String := "/var/log/dnsmasq.log"
  metricsBind : String := "127.0.0.1:9109"
  batchMaxEvents : Nat := 250
  batchMaxWaitMs : Nat := 1000
  queueDepth : Nat := 2000
  spoolDir : String := "/var/lib/netmon-agent/spool"
  spoolMaxBytes : Nat := 50 * 1024 * 1024
  qnameHashSalt : String := ""
  qnameHashCap : Nat := 200
  emitConntrackNew : Bool := false
  httpTimeoutSecs : Nat := 10
  httpRetryMax : Nat := 5
  httpRetryBaseMs : Nat := 500
  spoolReplayIntervalSecs : Nat := 30
  heartbeatIntervalSecs : Nat := 30
  logLevel : LogLevel := .info
deriving DecidableEq, Repr

namespace Config

/-- The path of the configuration where none is given. -/
def standardPath : String := "/etc/netmon-agent/config.yaml"

/-- The names under which settings are given. The collector's address has an older name besides. -/
def settingNames : List String :=
  ["router_id", "collector_url", "rails_base_url", "auth_token", "nflog_groups", "dnsmasq_log_path",
    "metrics_bind", "batch_max_events", "batch_max_wait_ms", "queue_depth", "spool_dir",
    "spool_max_bytes", "qname_hash_salt", "qname_hash_cap", "emit_conntrack_new", "http_timeout_secs",
    "http_retry_max", "http_retry_base_ms", "spool_replay_interval_secs", "heartbeat_interval_secs",
    "log_level"]

/-- Why there is no configuration. -/
inductive Error where
  | notFound (path : String)
  /-- The sources cannot be read as settings, for a reason in the words of what reads them. -/
  | unreadable (reason : String)
  | missing (field : String)
  | invalid (field reason : String)
deriving DecidableEq, Repr

/-- What is said of an error. -/
def Error.message : Error → String
  | .notFound path => "failed to load configuration: config file " ++ path ++ " not found"
  | .unreadable reason => "failed to load configuration: " ++ reason
  | .missing field => field ++ " is required"
  | .invalid field reason => "invalid value for " ++ field ++ ": " ++ reason

/-- A text, or the standard one in the place of an empty one. -/
def orText (s standard : String) : String :=
  if s.isEmpty then standard else s

/-- A number, or the standard one in the place of zero. -/
def orNumber (n standard : Nat) : Nat :=
  if n = 0 then standard else n

/-- The configuration with standard values where an empty text or a zero makes no sense. How often and how
soon a delivery is tried again may be zero. -/
def withDefaults (c : Config) : Config :=
  let d : Config := {}
  { c with
    metricsBind := orText c.metricsBind d.metricsBind
    dnsmasqLogPath := orText c.dnsmasqLogPath d.dnsmasqLogPath
    spoolDir := orText c.spoolDir d.spoolDir
    batchMaxEvents := orNumber c.batchMaxEvents d.batchMaxEvents
    batchMaxWaitMs := orNumber c.batchMaxWaitMs d.batchMaxWaitMs
    queueDepth := orNumber c.queueDepth d.queueDepth
    spoolMaxBytes := orNumber c.spoolMaxBytes d.spoolMaxBytes
    qnameHashCap := orNumber c.qnameHashCap d.qnameHashCap
    httpTimeoutSecs := orNumber c.httpTimeoutSecs d.httpTimeoutSecs
    spoolReplayIntervalSecs := orNumber c.spoolReplayIntervalSecs d.spoolReplayIntervalSecs
    heartbeatIntervalSecs := orNumber c.heartbeatIntervalSecs d.heartbeatIntervalSecs }

/-- Whether nothing but blanks stands in a text. -/
def isBlankText (s : String) : Bool :=
  (trim s.toList).isEmpty

/-- The first fault of a configuration, if it has one. -/
def fault? (c : Config) : Option Error :=
  if isBlankText c.routerId then some (.missing "router_id")
  else if isBlankText c.collectorUrl then some (.missing "collector_url")
  else if !(c.collectorUrl.startsWith "http://" || c.collectorUrl.startsWith "https://") then
    some (.invalid "collector_url" ("'" ++ c.collectorUrl ++ "' is not an http(s) URL"))
  else if c.authToken.isEmpty then some (.missing "auth_token")
  else if c.nflogGroups.isEmpty then some (.missing "nflog_groups")
  else if (Net.SocketAddress.ofText? c.metricsBind.toList).isNone then
    some (.invalid "metrics_bind" ("'" ++ c.metricsBind ++ "' is not an ip:port address"))
  else none

/-- A configuration that has no fault, or the fault. -/
def validate (c : Config) : Except Error Config :=
  match c.fault? with
  | some e => .error e
  | none => .ok c

end Config

end RouterTelemetry
