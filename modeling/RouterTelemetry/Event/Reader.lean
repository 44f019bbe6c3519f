import RouterTelemetry.Event.Basic
import RouterTelemetry.Json.Reader
import RouterTelemetry.Text.Utf8
import RouterTelemetry.Time.Rfc3339
/-!
# Events from JSON

Reading the written form of events and batches. A record may be written as an object, in any order and
with members that are not known, or as an array of its fields in order. No member that is known may stand
twice.
-/

namespace RouterTelemetry

open Time (Instant)

namespace Json

/-- The text of a string. -/
def text? : Json → Option String
  | .string s => some s
  | _ => none

/-- A truth value. -/
def bool? : Json → Option Bool
  | .bool b => some b
  | _ => none

/-- A whole number from 0 to `max`, written as such. -/
def nat? (max : Nat) : Json → Option Nat
  | .number (.natural n) => if n ≤ max then some n else none
  | _ => none

/-- A time. -/
def instant? (v : Json) : Option Instant :=
  v.text?.bind fun s => (Time.Rfc3339.read s.toList).toOption

/-- A list of texts. -/
def texts? : Json → Option (List String)
  | .array items => items.mapM text?
  | _ => none

/-- A value that may be null or missing. -/
def optional? {α : Type} (read : Json → Option α) : Option Json → Option (Option α)
  | none => some none
  | some .null => some none
  | some v => (read v).map some

/-- The fields of a record with the given names. -/
def record? (names : List String) : Json → Option (String → Option Json)
  | .object members =>
    if names.all fun k => members.countP (·.1 == k) ≤ 1 then some fun k => members.lookup k
    else none
  | .array items =>
    if items.length ≤ names.length then some fun k => (names.zip items).lookup k else none
  | _ => none

/-- The greatest number of arrays and objects around a value that is read in full. -/
def maxDepth : Nat := 127

end Json

/-- The greatest number of 8 bits. -/
def max8 : Nat := Nat.pow 2 8 - 1

/-- The greatest number of 16 bits. -/
def max16 : Nat := Nat.pow 2 16 - 1

/-- The greatest number of 64 bits. -/
def max64 : Nat := Nat.pow 2 64 - 1

open Json in
/-- Reads a sign of life. -/
def Heartbeat.ofJson? (v : Json) : Option Heartbeat := do
  let r ← record? ["router_id"] v
  some ⟨← (r "router_id").bind text?⟩

open Json in
/-- Reads a dropped packet. -/
def FirewallDrop.ofJson? (v : Json) : Option FirewallDrop := do
  let r ← record? ["hook", "rule_tag", "nflog_group", "if_in", "if_out", "src_ip", "dst_ip",
    "src_port", "dst_port", "l4proto", "tcp_syn"] v
  some {
    hook := ← (r "hook").bind text?
    ruleTag := ← (r "rule_tag").bind text?
    nflogGroup := ← (r "nflog_group").bind (nat? max16)
    ifIn := ← (r "if_in").bind text?
    ifOut := ← optional? text? (r "if_out")
    srcIp := ← (r "src_ip").bind text?
    dstIp := ← (r "dst_ip").bind text?
    srcPort := ← (r "src_port").bind (nat? max16)
    dstPort := ← (r "dst_port").bind (nat? max16)
    l4proto := ← (r "l4proto").bind (nat? max8)
    tcpSyn := ← (r "tcp_syn").bind bool? }

open Json in
/-- Reads the names that an address has asked for. -/
def DnsContext.ofJson? (v : Json) : Option DnsContext := do
  let r ← record? ["recent_qname_hashes", "last_seen"] v
  some {
    recentQnameHashes := ← (r "recent_qname_hashes").bind texts?
    lastSeen := ← (r "last_seen").bind text? }

open Json in
/-- Reads a flow. Its state and flags may be missing. -/
def Flow.ofJson? (v : Json) : Option Flow := do
  let r ← record? ["event", "state", "flags", "src_ip", "dst_ip", "src_port", "dst_port",
    "l4proto", "dir", "bytes_orig", "bytes_reply", "packets_orig", "packets_reply", "first_seen",
    "last_seen", "dns_context"] v
  some {
    event := ← (r "event").bind text?
    state := ← text? ((r "state").getD (.string ""))
    flags := ← text? ((r "flags").getD (.string ""))
    srcIp := ← (r "src_ip").bind text?
    dstIp := ← (r "dst_ip").bind text?
    srcPort := ← (r "src_port").bind (nat? max16)
    dstPort := ← (r "dst_port").bind (nat? max16)
    l4proto := ← (r "l4proto").bind (nat? max8)
    dir := ← (r "dir").bind text?
    bytesOrig := ← (r "bytes_orig").bind (nat? max64)
    bytesReply := ← (r "bytes_reply").bind (nat? max64)
    packetsOrig := ← (r "packets_orig").bind (nat? max64)
    packetsReply := ← (r "packets_reply").bind (nat? max64)
    firstSeen := ← (r "first_seen").bind instant?
    lastSeen := ← (r "last_seen").bind instant?
    dnsContext := ← optional? DnsContext.ofJson? (r "dns_context") }

open Json in
/-- Reads a bucket. -/
def DnsBucket.ofJson? (v : Json) : Option DnsBucket := do
  let r ← record? ["bucket_start", "client_ip", "qtype", "qname_hash", "count", "nxdomain"] v
  some {
    bucketStart := ← (r "bucket_start").bind instant?
    clientIp := ← (r "client_ip").bind text?
    qtype := ← (r "qtype").bind text?
    qnameHash := ← (r "qname_hash").bind text?
    count := ← (r "count").bind (nat? max64)
    nxdomain := ← (r "nxdomain").bind (nat? max64) }

open Json in
/-- Reads the recent names of a client. -/
def HostIdentity.ofJson? (v : Json) : Option HostIdentity := do
  let r ← record? ["ip", "last_seen", "recent_qname_hashes"] v
  some {
    ip := ← (r "ip").bind text?
    lastSeen := ← (r "last_seen").bind instant?
    recentQnameHashes := ← (r "recent_qname_hashes").bind texts? }

/-- The name of a kind: a text, or an object whose only key it is, with nothing in it. -/
def Payload.kind? : Json → Option String
  | .string s => some s
  | .object [(k, .null)] => some k
  | .object [(k, .object [])] => some k
  | _ => none

/-- Reads the content of an event of a kind. -/
def Payload.ofJson? (kind : String) (v : Json) : Option Payload :=
  match kind with
  | "heartbeat" => (Heartbeat.ofJson? v).map .heartbeat
  | "firewall_drop" => (FirewallDrop.ofJson? v).map .firewallDrop
  | "flow" => (Flow.ofJson? v).map .flow
  | "dns_bucket" => (DnsBucket.ofJson? v).map .dnsBucket
  | "host_identity" => (HostIdentity.ofJson? v).map .hostIdentity
  | _ => none

open Json in
/-- Reads an event that stands inside `around` arrays and objects. An event is written as an object, and
the whole of it has to be readable, the members that are not known included. -/
def Event.ofJson? (around : Nat) (v : Json) : Option Event :=
  match v with
  | .object _ =>
    if v.isReadable ∧ around + v.depth ≤ maxDepth then do
      let r ← record? ["ts", "type", "data"] v
      let time ← (r "ts").bind instant?
      let kind ← (r "type").bind Payload.kind?
      let payload ← (r "data").bind (Payload.ofJson? kind)
      some ⟨time, payload⟩
    else none
  | _ => none

open Json in
/-- Reads a batch. -/
def Batch.ofJson? (v : Json) : Option Batch := do
  let r ← record? ["router_id", "sent_at", "events"] v
  let routerId ← (r "router_id").bind text?
  let sentAt ← (r "sent_at").bind instant?
  match r "events" with
  | some (.array items) => do
    let events ← items.mapM (Event.ofJson? 2)
    some ⟨routerId, sentAt, events⟩
  | _ => none

/-- The batch that a byte sequence is the written form of. -/
def Batch.ofPayload? (bs : Text.Bytes) : Option Batch := do
  let s ← Text.decodeUtf8? bs
  (Json.parse? s).bind Batch.ofJson?

end RouterTelemetry
