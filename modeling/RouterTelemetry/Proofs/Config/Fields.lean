import Mathlib.Logic.Function.Basic
import RouterTelemetry.Config.Load
/-!
# Fields of a configuration

A configuration taken apart: its fields, the kind of each of them, and the name under which it is set. Settings are read
field by field, and so are standard values put in. Main statements:

* `Field.get_set_self`, `Field.get_set_of_ne` and `eq_of_get` : a configuration is what its fields hold;
* `Field.get_withDefaults` : which fields take their standard value in the place of zero or an empty text;
* `ofEntries?_eq_some_iff` : what is read from settings;
* `load_eq_ok_iff` : when a configuration is loaded, and which one.
-/

namespace RouterTelemetry.Config

open Text

/-! ## Kinds -/

/-- The kinds of fields. Numbers have at most so many bits. -/
inductive Kind where
  | text
  | natural (bits : Nat)
  | naturals (bits : Nat)
  | truth
  | level

namespace Kind

/-- What a field of a kind holds. -/
def Carrier : Kind → Type
  | text => String
  | natural _ => Nat
  | naturals _ => List Nat
  | truth => Bool
  | level => LogLevel

/-- What a value sets a field of a kind to, if it can. -/
def read? : (k : Kind) → Value → Option k.Carrier
  | text => asText?
  | natural bits => asNatural? bits
  | naturals bits => asNaturals? bits
  | truth => asBool?
  | level => fun v => v.toJson?.map fun j => (LogLevel.ofSetting j.sorted).1

/-- What a field holds, or a standard value in the place of zero or an empty text. -/
def orStandard : (k : Kind) → k.Carrier → k.Carrier → k.Carrier
  | text => orText
  | natural _ => orNumber
  | _ => fun v _ => v

end Kind

/-! ## Fields -/

/-- The fields of a configuration. -/
inductive Field where
  | routerId
  | collectorUrl
  | authToken
  | nflogGroups
  | dnsmasqLogPath
  | metricsBind
  | batchMaxEvents
  | batchMaxWaitMs
  | queueDepth
  | spoolDir
  | spoolMaxBytes
  | qnameHashSalt
  | qnameHashCap
  | emitConntrackNew
  | httpTimeoutSecs
  | httpRetryMax
  | httpRetryBaseMs
  | spoolReplayIntervalSecs
  | heartbeatIntervalSecs
  | logLevel
deriving DecidableEq

namespace Field

/-- The name under which a field is set. -/
def name : Field → String
  | routerId => "router_id"
  | collectorUrl => "collector_url"
  | authToken => "auth_token"
  | nflogGroups => "nflog_groups"
  | dnsmasqLogPath => "dnsmasq_log_path"
  | metricsBind => "metrics_bind"
  | batchMaxEvents => "batch_max_events"
  | batchMaxWaitMs => "batch_max_wait_ms"
  | queueDepth => "queue_depth"
  | spoolDir => "spool_dir"
  | spoolMaxBytes => "spool_max_bytes"
  | qnameHashSalt => "qname_hash_salt"
  | qnameHashCap => "qname_hash_cap"
  | emitConntrackNew => "emit_conntrack_new"
  | httpTimeoutSecs => "http_timeout_secs"
  | httpRetryMax => "http_retry_max"
  | httpRetryBaseMs => "http_retry_base_ms"
  | spoolReplayIntervalSecs => "spool_replay_interval_secs"
  | heartbeatIntervalSecs => "heartbeat_interval_secs"
  | logLevel => "log_level"

/-- The older name of the collector's address. -/
def oldName : String := "rails_base_url"

/-- The kind of a field. -/
def kind : Field → Kind
  | routerId | collectorUrl | authToken | dnsmasqLogPath | metricsBind | spoolDir | qnameHashSalt => .text
  | nflogGroups => .naturals 16
  | httpRetryMax => .natural 32
  | emitConntrackNew => .truth
  | logLevel => .level
  | batchMaxEvents | batchMaxWaitMs | queueDepth | spoolMaxBytes | qnameHashCap | httpTimeoutSecs
  | httpRetryBaseMs | spoolReplayIntervalSecs | heartbeatIntervalSecs => .natural 64

/-- What a field of a configuration holds. -/
def get : (f : Field) → Config → f.kind.Carrier
  | routerId => Config.routerId
  | collectorUrl => Config.collectorUrl
  | authToken => Config.authToken
  | nflogGroups => Config.nflogGroups
  | dnsmasqLogPath => Config.dnsmasqLogPath
  | metricsBind => Config.metricsBind
  | batchMaxEvents => Config.batchMaxEvents
  | batchMaxWaitMs => Config.batchMaxWaitMs
  | queueDepth => Config.queueDepth
  | spoolDir => Config.spoolDir
  | spoolMaxBytes => Config.spoolMaxBytes
  | qnameHashSalt => Config.qnameHashSalt
  | qnameHashCap => Config.qnameHashCap
  | emitConntrackNew => Config.emitConntrackNew
  | httpTimeoutSecs => Config.httpTimeoutSecs
  | httpRetryMax => Config.httpRetryMax
  | httpRetryBaseMs => Config.httpRetryBaseMs
  | spoolReplayIntervalSecs => Config.spoolReplayIntervalSecs
  | heartbeatIntervalSecs => Config.heartbeatIntervalSecs
  | logLevel => Config.logLevel

/-- What a field holds where nothing is set. -/
def standard (f : Field) : f.kind.Carrier :=
  f.get {}

/-- The field with a name. -/
def ofName? (n : String) : Option Field :=
  [routerId, collectorUrl, authToken, nflogGroups, dnsmasqLogPath, metricsBind, batchMaxEvents, batchMaxWaitMs,
    queueDepth, spoolDir, spoolMaxBytes, qnameHashSalt, qnameHashCap, emitConntrackNew, httpTimeoutSecs,
    httpRetryMax, httpRetryBaseMs, spoolReplayIntervalSecs, heartbeatIntervalSecs, logLevel].find? (·.name = n)

theorem ofName?_name (f : Field) : ofName? f.name = some f := by
  cases f <;> decide

/-- Fields have names of their own. -/
theorem name_injective : Function.Injective name := by
  intro f g h
  have hf := ofName?_name f
  rw [h, ofName?_name] at hf
  exact (Option.some.inj hf).symm

theorem name_ne_oldName (f : Field) : f.name ≠ oldName := by
  cases f <;> decide

end Field

/-- The configuration whose fields hold what is given. -/
def ofFields (r : (f : Field) → f.kind.Carrier) : Config where
  routerId := r .routerId
  collectorUrl := r .collectorUrl
  authToken := r .authToken
  nflogGroups := r .nflogGroups
  dnsmasqLogPath := r .dnsmasqLogPath
  metricsBind := r .metricsBind
  batchMaxEvents := r .batchMaxEvents
  batchMaxWaitMs := r .batchMaxWaitMs
  queueDepth := r .queueDepth
  spoolDir := r .spoolDir
  spoolMaxBytes := r .spoolMaxBytes
  qnameHashSalt := r .qnameHashSalt
  qnameHashCap := r .qnameHashCap
  emitConntrackNew := r .emitConntrackNew
  httpTimeoutSecs := r .httpTimeoutSecs
  httpRetryMax := r .httpRetryMax
  httpRetryBaseMs := r .httpRetryBaseMs
  spoolReplayIntervalSecs := r .spoolReplayIntervalSecs
  heartbeatIntervalSecs := r .heartbeatIntervalSecs
  logLevel := r .logLevel

@[simp] theorem get_ofFields (r : (f : Field) → f.kind.Carrier) (f : Field) : f.get (ofFields r) = r f := by
  cases f <;> rfl

theorem ofFields_get (c : Config) : ofFields (fun f => f.get c) = c :=
  rfl

/-- A configuration is what its fields hold. -/
theorem eq_of_get {c c' : Config} (h : ∀ f : Field, f.get c = f.get c') : c = c' := by
  rw [← ofFields_get c, funext h, ofFields_get]

namespace Field

/-- The configuration in which a field holds something else, and every other field what it did. -/
def set (f : Field) (v : f.kind.Carrier) (c : Config) : Config :=
  ofFields (Function.update (fun g => g.get c) f v)

theorem get_set_self (f : Field) (v : f.kind.Carrier) (c : Config) : f.get (f.set v c) = v := by
  rw [set, get_ofFields, Function.update_self]

theorem get_set_of_ne {f g : Field} (h : g ≠ f) (v : f.kind.Carrier) (c : Config) :
    g.get (f.set v c) = g.get c := by
  rw [set, get_ofFields, Function.update_of_ne h]

/-! ## Standard values -/

/-- Whether a field takes its standard value in the place of zero or an empty text. -/
def isFilled : Field → Bool
  | metricsBind | dnsmasqLogPath | spoolDir | batchMaxEvents | batchMaxWaitMs | queueDepth | spoolMaxBytes
  | qnameHashCap | httpTimeoutSecs | spoolReplayIntervalSecs | heartbeatIntervalSecs => true
  | _ => false

/-- What a field holds in the end that is set to something. -/
def filled (f : Field) (v : f.kind.Carrier) : f.kind.Carrier :=
  if f.isFilled then f.kind.orStandard v f.standard else v

/-- Standard values are put in field by field. -/
theorem get_withDefaults (f : Field) (c : Config) : f.get c.withDefaults = f.filled (f.get c) := by
  cases f <;> rfl

theorem withDefaults_set (f : Field) (v : f.kind.Carrier) (c : Config) :
    (f.set v c).withDefaults = f.set (f.filled v) c.withDefaults := by
  refine eq_of_get fun g => ?_
  rw [get_withDefaults]
  by_cases h : g = f
  · subst h
    rw [get_set_self, get_set_self]
  · rw [get_set_of_ne h, get_set_of_ne h, get_withDefaults]

/-! ## Reading settings -/

/-- What settings say of a field: `none` if they say something that it cannot hold. -/
def setting? : (f : Field) → List (String × Value) → Option f.kind.Carrier
  | collectorUrl, es => collectorUrl? es
  | f, es => field es f.name f.kind.read? f.standard

theorem setting?_of_ne {f : Field} (h : f ≠ collectorUrl) (es : List (String × Value)) :
    f.setting? es = field es f.name f.kind.read? f.standard := by
  cases f with
  | collectorUrl => exact absurd rfl h
  | _ => rfl

theorem setting?_collectorUrl (es : List (String × Value)) :
    collectorUrl.setting? es =
      match Table.find? collectorUrl.name es, Table.find? oldName es with
      | some _, some _ => none
      | some v, none => asText? v
      | none, some v => asText? v
      | none, none => some "" :=
  rfl

/-- The level of the settings, without the complaint about it. -/
theorem setting?_logLevel (es : List (String × Value)) :
    logLevel.setting? es = (logLevel? es).map Prod.fst := by
  have hname : logLevel.name = "log_level" := rfl
  rw [setting?_of_ne (by decide), logLevel?, field, hname]
  cases Table.find? "log_level" es with
  | none => rfl
  | some v => exact (Option.map_map ..).symm

end Field

/-- **Settings are read field by field.** -/
theorem ofEntries?_eq_some_iff {es : List (String × Value)} {c : Config} {w : Option String} :
    ofEntries? es = some (c, w) ↔
      (∀ f : Field, f.setting? es = some (f.get c)) ∧ logLevel? es = some (c.logLevel, w) := by
  constructor
  · intro h
    rw [ofEntries?] at h
    obtain ⟨⟨_, _⟩, hlevel, h⟩ := Option.bind_eq_some_iff.mp h
    obtain ⟨_, hrouter, h⟩ := Option.bind_eq_some_iff.mp h
    obtain ⟨_, hcollector, h⟩ := Option.bind_eq_some_iff.mp h
    obtain ⟨_, htoken, h⟩ := Option.bind_eq_some_iff.mp h
    obtain ⟨_, hgroups, h⟩ := Option.bind_eq_some_iff.mp h
    obtain ⟨_, hlog, h⟩ := Option.bind_eq_some_iff.mp h
    obtain ⟨_, hbind, h⟩ := Option.bind_eq_some_iff.mp h
    obtain ⟨_, hevents, h⟩ := Option.bind_eq_some_iff.mp h
    obtain ⟨_, hwait, h⟩ := Option.bind_eq_some_iff.mp h
    obtain ⟨_, hdepth, h⟩ := Option.bind_eq_some_iff.mp h
    obtain ⟨_, hspool, h⟩ := Option.bind_eq_some_iff.mp h
    obtain ⟨_, hbytes, h⟩ := Option.bind_eq_some_iff.mp h
    obtain ⟨_, hsalt, h⟩ := Option.bind_eq_some_iff.mp h
    obtain ⟨_, hcap, h⟩ := Option.bind_eq_some_iff.mp h
    obtain ⟨_, hconntrack, h⟩ := Option.bind_eq_some_iff.mp h
    obtain ⟨_, htimeout, h⟩ := Option.bind_eq_some_iff.mp h
    obtain ⟨_, hretry, h⟩ := Option.bind_eq_some_iff.mp h
    obtain ⟨_, hbase, h⟩ := Option.bind_eq_some_iff.mp h
    obtain ⟨_, hreplay, h⟩ := Option.bind_eq_some_iff.mp h
    obtain ⟨_, hheartbeat, h⟩ := Option.bind_eq_some_iff.mp h
    obtain ⟨rfl, rfl⟩ := Prod.mk.inj (Option.some.inj h)
    refine ⟨fun f => ?_, hlevel⟩
    cases f with
    | routerId => exact hrouter
    | collectorUrl => exact hcollector
    | authToken => exact htoken
    | nflogGroups => exact hgroups
    | dnsmasqLogPath => exact hlog
    | metricsBind => exact hbind
    | batchMaxEvents => exact hevents
    | batchMaxWaitMs => exact hwait
    | queueDepth => exact hdepth
    | spoolDir => exact hspool
    | spoolMaxBytes => exact hbytes
    | qnameHashSalt => exact hsalt
    | qnameHashCap => exact hcap
    | emitConntrackNew => exact hconntrack
    | httpTimeoutSecs => exact htimeout
    | httpRetryMax => exact hretry
    | httpRetryBaseMs => exact hbase
    | spoolReplayIntervalSecs => exact hreplay
    | heartbeatIntervalSecs => exact hheartbeat
    | logLevel => rw [Field.setting?_logLevel, hlevel]; rfl
  · rintro ⟨h, hlevel⟩
    rw [ofEntries?]
    refine Option.bind_eq_some_iff.mpr ⟨_, hlevel, ?_⟩
    refine Option.bind_eq_some_iff.mpr ⟨_, h .routerId, ?_⟩
    refine Option.bind_eq_some_iff.mpr ⟨_, h .collectorUrl, ?_⟩
    refine Option.bind_eq_some_iff.mpr ⟨_, h .authToken, ?_⟩
    refine Option.bind_eq_some_iff.mpr ⟨_, h .nflogGroups, ?_⟩
    refine Option.bind_eq_some_iff.mpr ⟨_, h .dnsmasqLogPath, ?_⟩
    refine Option.bind_eq_some_iff.mpr ⟨_, h .metricsBind, ?_⟩
    refine Option.bind_eq_some_iff.mpr ⟨_, h .batchMaxEvents, ?_⟩
    refine Option.bind_eq_some_iff.mpr ⟨_, h .batchMaxWaitMs, ?_⟩
    refine Option.bind_eq_some_iff.mpr ⟨_, h .queueDepth, ?_⟩
    refine Option.bind_eq_some_iff.mpr ⟨_, h .spoolDir, ?_⟩
    refine Option.bind_eq_some_iff.mpr ⟨_, h .spoolMaxBytes, ?_⟩
    refine Option.bind_eq_some_iff.mpr ⟨_, h .qnameHashSalt, ?_⟩
    refine Option.bind_eq_some_iff.mpr ⟨_, h .qnameHashCap, ?_⟩
    refine Option.bind_eq_some_iff.mpr ⟨_, h .emitConntrackNew, ?_⟩
    refine Option.bind_eq_some_iff.mpr ⟨_, h .httpTimeoutSecs, ?_⟩
    refine Option.bind_eq_some_iff.mpr ⟨_, h .httpRetryMax, ?_⟩
    refine Option.bind_eq_some_iff.mpr ⟨_, h .httpRetryBaseMs, ?_⟩
    refine Option.bind_eq_some_iff.mpr ⟨_, h .spoolReplayIntervalSecs, ?_⟩
    refine Option.bind_eq_some_iff.mpr ⟨_, h .heartbeatIntervalSecs, ?_⟩
    rfl

/-- Settings make up no configuration if one of the fields cannot be read. -/
theorem ofEntries?_eq_none_iff {es : List (String × Value)} :
    ofEntries? es = none ↔ ∃ f : Field, f.setting? es = none := by
  constructor
  · intro hnone
    by_contra hall
    have hsome : ∀ f : Field, ∃ x, f.setting? es = some x := fun f =>
      Option.ne_none_iff_exists'.mp fun hf => hall ⟨f, hf⟩
    obtain ⟨r, hr⟩ := Classical.skolem.mp hsome
    -- the level is read together with the complaint about it
    have hlevel := hr .logLevel
    rw [Field.setting?_logLevel] at hlevel
    obtain ⟨⟨level, w⟩, hlevel, hlevel'⟩ := Option.map_eq_some_iff.mp hlevel
    have hread : ofEntries? es = some (ofFields r, w) := by
      refine ofEntries?_eq_some_iff.mpr ⟨fun f => ?_, ?_⟩
      · rw [get_ofFields, hr]
      · rw [hlevel, ← show level = (ofFields r).logLevel from hlevel']
    exact absurd (hnone.symm.trans hread) (by simp)
  · rintro ⟨f, hf⟩
    rw [Option.eq_none_iff_forall_ne_some]
    rintro ⟨c, w⟩ hsome
    have hget := (ofEntries?_eq_some_iff.mp hsome).1 f
    exact absurd (hf.symm.trans hget) (by simp)

/-! ## Loading -/

/-- The settings that the bytes of a file hold. -/
def fileEntries? (bytes : Bytes) : Option (List (String × Value)) :=
  (decodeUtf8? bytes).bind documentEntries?

theorem validate_eq_ok_iff {c c' : Config} : c.validate = .ok c' ↔ c = c' ∧ c.fault? = none := by
  rw [validate]
  cases c.fault? <;> simp

/-- **What is loaded.** It is read from the settings of the file and the variables, has standard values in the place of
zeros and empty texts, and has no fault. -/
theorem load_eq_ok_iff {path : String} {file : Option Bytes} {vars : List (String × String)}
    {say : Unreadable → String} {c : Config} {w : Option String} :
    load path file vars say = .ok (c, w) ↔
      ∃ bytes es c₀, file = some bytes ∧ fileEntries? bytes = some es ∧
        ofEntries? (Value.mergeEntries es (Environment.settings vars)) = some (c₀, w) ∧
        c₀.withDefaults = c ∧ c.fault? = none := by
  constructor
  · intro h
    cases file with
    | none => exact absurd h (by simp [load])
    | some bytes =>
      rw [load] at h
      cases hes : (decodeUtf8? bytes).bind documentEntries? with
      | none =>
        rw [hes] at h
        exact absurd h (by simp)
      | some es =>
        rw [hes] at h
        dsimp only at h
        cases hentries : ofEntries? (Value.mergeEntries es (Environment.settings vars)) with
        | none =>
          rw [hentries] at h
          exact absurd h (by simp)
        | some loaded =>
          obtain ⟨c₀, complaint⟩ := loaded
          rw [hentries] at h
          cases hvalid : c₀.withDefaults.validate with
          | error e =>
            dsimp only at h
            rw [hvalid] at h
            exact absurd h (by simp [bind, Except.bind])
          | ok c' =>
            dsimp only at h
            rw [hvalid] at h
            obtain ⟨rfl, rfl⟩ := Prod.mk.inj (Except.ok.inj h)
            obtain ⟨rfl, hfault⟩ := validate_eq_ok_iff.mp hvalid
            exact ⟨bytes, es, c₀, rfl, hes, hentries, rfl, hfault⟩
  · rintro ⟨bytes, es, c₀, rfl, hes, hentries, rfl, hfault⟩
    rw [fileEntries?] at hes
    simp only [load, hes, hentries, validate, hfault]
    rfl

end RouterTelemetry.Config
