import RouterTelemetry.Time.Instant
/-!
# Events

What the agent tells the collector: that it is alive, that the firewall dropped a packet, that a connection
came or went, how often a name was asked for in a minute, and what a client has asked for lately. A batch
is an ordered list of events with the identity of the router and the time at which it was sent.
-/

namespace RouterTelemetry

open Time (Instant)

/-- A sign of life. -/
structure Heartbeat where
  routerId : String
deriving DecidableEq, Repr

/-- A packet dropped by the firewall. -/
structure FirewallDrop where
  hook : String
  ruleTag : String
  nflogGroup : Nat
  ifIn : String
  ifOut : Option String
  srcIp : String
  dstIp : String
  srcPort : Nat
  dstPort : Nat
  l4proto : Nat
  tcpSyn : Bool
deriving DecidableEq, Repr

/-- What is known of the names that an address has asked for. -/
structure DnsContext where
  recentQnameHashes : List String
  lastSeen : String
deriving DecidableEq, Repr

/-- A connection that came or went. -/
structure Flow where
  event : String
  state : String
  flags : String
  srcIp : String
  dstIp : String
  srcPort : Nat
  dstPort : Nat
  l4proto : Nat
  dir : String
  bytesOrig : Nat
  bytesReply : Nat
  packetsOrig : Nat
  packetsReply : Nat
  firstSeen : Instant
  lastSeen : Instant
  dnsContext : Option DnsContext
deriving DecidableEq, Repr

/-- One minute of queries by one client of one type for one hashed name. -/
structure DnsBucket where
  bucketStart : Instant
  clientIp : String
  qtype : String
  qnameHash : String
  count : Nat
  nxdomain : Nat
deriving DecidableEq, Repr

/-- What a client has asked for lately. -/
structure HostIdentity where
  ip : String
  lastSeen : Instant
  recentQnameHashes : List String
deriving DecidableEq, Repr

/-- The content of an event. -/
inductive Payload where
  | heartbeat (h : Heartbeat)
  | firewallDrop (d : FirewallDrop)
  | flow (f : Flow)
  | dnsBucket (b : DnsBucket)
  | hostIdentity (h : HostIdentity)
deriving DecidableEq, Repr

/-- The name of the kind of an event. -/
def Payload.kind : Payload → String
  | .heartbeat _ => "heartbeat"
  | .firewallDrop _ => "firewall_drop"
  | .flow _ => "flow"
  | .dnsBucket _ => "dns_bucket"
  | .hostIdentity _ => "host_identity"

/-- Something that happened, and when. -/
structure Event where
  time : Instant
  payload : Payload
deriving DecidableEq, Repr

/-- Events that are sent together. -/
structure Batch where
  routerId : String
  sentAt : Instant
  events : List Event
deriving DecidableEq, Repr

/-- The flow with what `lookup` knows of its source address. -/
def Flow.enrich (f : Flow) (lookup : String → Option DnsContext) : Flow :=
  { f with dnsContext := lookup f.srcIp }

end RouterTelemetry
