import RouterTelemetry.Event.Basic
import RouterTelemetry.Json.Basic
import RouterTelemetry.Text.Utf8
/-!
# Events as JSON

The written form of events and batches. The members of an object stand in the order of the fields; a flow
without DNS context leaves that member out.
-/

namespace RouterTelemetry

open Time (Instant)

/-- A time, in UTC. -/
def Json.ofInstant (t : Instant) : Json :=
  .string (String.ofList t.text)

/-- A list of texts. -/
def Json.ofTexts (l : List String) : Json :=
  .array (l.map Json.string)

namespace Heartbeat

/-- The written form. -/
def toJson (h : Heartbeat) : Json :=
  .object [("router_id", .string h.routerId)]

end Heartbeat

namespace FirewallDrop

/-- The written form. -/
def toJson (d : FirewallDrop) : Json :=
  .object [
    ("hook", .string d.hook),
    ("rule_tag", .string d.ruleTag),
    ("nflog_group", .nat d.nflogGroup),
    ("if_in", .string d.ifIn),
    ("if_out", (d.ifOut.map Json.string).getD .null),
    ("src_ip", .string d.srcIp),
    ("dst_ip", .string d.dstIp),
    ("src_port", .nat d.srcPort),
    ("dst_port", .nat d.dstPort),
    ("l4proto", .nat d.l4proto),
    ("tcp_syn", .bool d.tcpSyn)]

end FirewallDrop

namespace DnsContext

/-- The written form. -/
def toJson (c : DnsContext) : Json :=
  .object [
    ("recent_qname_hashes", .ofTexts c.recentQnameHashes),
    ("last_seen", .string c.lastSeen)]

end DnsContext

namespace Flow

/-- The written form. -/
def toJson (f : Flow) : Json :=
  .object ([
    ("event", .string f.event),
    ("state", .string f.state),
    ("flags", .string f.flags),
    ("src_ip", .string f.srcIp),
    ("dst_ip", .string f.dstIp),
    ("src_port", .nat f.srcPort),
    ("dst_port", .nat f.dstPort),
    ("l4proto", .nat f.l4proto),
    ("dir", .string f.dir),
    ("bytes_orig", .nat f.bytesOrig),
    ("bytes_reply", .nat f.bytesReply),
    ("packets_orig", .nat f.packetsOrig),
    ("packets_reply", .nat f.packetsReply),
    ("first_seen", .ofInstant f.firstSeen),
    ("last_seen", .ofInstant f.lastSeen)]
    ++ (f.dnsContext.map fun c => ("dns_context", c.toJson)).toList)

end Flow

namespace DnsBucket

/-- The written form. -/
def toJson (b : DnsBucket) : Json :=
  .object [
    ("bucket_start", .ofInstant b.bucketStart),
    ("client_ip", .string b.clientIp),
    ("qtype", .string b.qtype),
    ("qname_hash", .string b.qnameHash),
    ("count", .nat b.count),
    ("nxdomain", .nat b.nxdomain)]

end DnsBucket

namespace HostIdentity

/-- The written form. -/
def toJson (h : HostIdentity) : Json :=
  .object [
    ("ip", .string h.ip),
    ("last_seen", .ofInstant h.lastSeen),
    ("recent_qname_hashes", .ofTexts h.recentQnameHashes)]

end HostIdentity

namespace Payload

/-- The written form of the content, without its kind. -/
def toJson : Payload → Json
  | .heartbeat h => h.toJson
  | .firewallDrop d => d.toJson
  | .flow f => f.toJson
  | .dnsBucket b => b.toJson
  | .hostIdentity h => h.toJson

end Payload

namespace Event

/-- The written form: the time, the kind and the content. -/
def toJson (e : Event) : Json :=
  .object [
    ("ts", .ofInstant e.time),
    ("type", .string e.payload.kind),
    ("data", e.payload.toJson)]

end Event

namespace Batch

/-- The written form. -/
def toJson (b : Batch) : Json :=
  .object [
    ("router_id", .string b.routerId),
    ("sent_at", .ofInstant b.sentAt),
    ("events", .array (b.events.map Event.toJson))]

/-- The bytes in which a batch is sent and stored. -/
def toPayload (b : Batch) : Text.Bytes :=
  Text.encodeUtf8 b.toJson.render

end Batch

end RouterTelemetry
