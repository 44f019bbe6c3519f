import RouterTelemetry.Json.Basic
import RouterTelemetry.Tally
/-!
# Counters and gauges

What the agent reports about its own health. Counters only grow; gauges hold the value that was measured
last. Drops and queue depths are kept for each stream, failed deliveries for each kind of failure.

Counters and gauges are natural numbers without a limit, where the agent keeps words of sixty-four bits. What is said of
a counter holds of such a word as long as it counts less than `2 ^ 64`; then it would start again from zero.
-/

namespace RouterTelemetry

/-- The hand-offs between the parts of the agent. -/
inductive Stream where
  | events
  | dnsLines
  | httpBatch
  | dnsBucket
  | hostIdentity
  | flow
  | firewallDrop
  | heartbeat
deriving DecidableEq, Repr

namespace Stream

/-- All streams. -/
def all : List Stream :=
  [.events, .dnsLines, .httpBatch, .dnsBucket, .hostIdentity, .flow, .firewallDrop, .heartbeat]

/-- The name of a stream. -/
def name : Stream → String
  | .events => "events"
  | .dnsLines => "dns_lines"
  | .httpBatch => "http_batch"
  | .dnsBucket => "dns_bucket"
  | .hostIdentity => "host_identity"
  | .flow => "flow"
  | .firewallDrop => "firewall_drop"
  | .heartbeat => "heartbeat"

/-- The stream of a name. -/
def ofName? (s : String) : Option Stream :=
  all.find? (·.name == s)

end Stream

/-- The numbers that stand alone. -/
inductive Counter where
  | nflogEvents
  | nflogParseErrors
  | conntrackDestroy
  | conntrackParseErrors
  | dnsLines
  | dnsParseErrors
  | dnsBucketsEmitted
  | httpBatchesSent
  | spoolDroppedBatches
  | spoolBytes
  | spoolBatches
deriving DecidableEq, Repr

namespace Counter

/-- All counters. -/
def all : List Counter :=
  [.nflogEvents, .nflogParseErrors, .conntrackDestroy, .conntrackParseErrors, .dnsLines,
    .dnsParseErrors, .dnsBucketsEmitted, .httpBatchesSent, .spoolDroppedBatches, .spoolBytes,
    .spoolBatches]

/-- The name of a counter. -/
def name : Counter → String
  | .nflogEvents => "nflog_events"
  | .nflogParseErrors => "nflog_parse_errors"
  | .conntrackDestroy => "conntrack_destroy"
  | .conntrackParseErrors => "conntrack_parse_errors"
  | .dnsLines => "dns_lines"
  | .dnsParseErrors => "dns_parse_errors"
  | .dnsBucketsEmitted => "dns_buckets_emitted"
  | .httpBatchesSent => "http_batches_sent"
  | .spoolDroppedBatches => "spool_dropped_batches"
  | .spoolBytes => "spool_bytes"
  | .spoolBatches => "spool_batches"

/-- The counter of a name. -/
def ofName? (s : String) : Option Counter :=
  all.find? (·.name == s)

end Counter

/-- The counters and gauges at one moment. -/
structure Stats where
  counters : Tally Counter := {}
  /-- Failed deliveries by the label of the failure. -/
  sendErrors : Tally String := {}
  /-- Items that a stream had no room for. -/
  dropped : Tally Stream := {}
  /-- Items that waited when it was last looked. -/
  depths : Tally Stream := {}

namespace Stats

/-- The value of a counter. -/
def get (s : Stats) (c : Counter) : Nat :=
  s.counters.get c

/-- Counts one more. -/
def incr (s : Stats) (c : Counter) : Stats :=
  { s with counters := s.counters.incr c }

@[simp]
theorem get_incr (s : Stats) (c d : Counter) :
    (s.incr c).get d = if d = c then s.get c + 1 else s.get d :=
  Tally.get_incr s.counters c d

/-- Sets a gauge. -/
def set (s : Stats) (c : Counter) (n : Nat) : Stats :=
  { s with counters := s.counters.set c n }

/-- Counts an item that a stream had no room for. -/
def recordDrop (s : Stats) (stream : Stream) : Stats :=
  { s with dropped := s.dropped.incr stream }

/-- Sets the depth of a stream's queue. -/
def setDepth (s : Stats) (stream : Stream) (n : Nat) : Stats :=
  { s with depths := s.depths.set stream n }

/-- Counts a failed delivery under its label. -/
def recordSendError (s : Stats) (label : String) : Stats :=
  { s with sendErrors := s.sendErrors.incr label }

/-- All numbers, as an object. -/
def snapshot (s : Stats) : Json :=
  let perStream (t : Tally Stream) : Json :=
    .object (Stream.all.map fun x => (x.name, .nat (t.get x)))
  .object ((Counter.all.map fun c => (c.name, Json.nat (s.get c)))
    ++ [("http_send_errors",
        .object (s.sendErrors.entries.map fun (l, n) => (l, .nat n))),
      ("dropped_local", perStream s.dropped), ("queue_depth", perStream s.depths)])

end Stats

end RouterTelemetry
