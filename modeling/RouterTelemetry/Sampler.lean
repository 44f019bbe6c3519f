import RouterTelemetry.Spool.Basic
import RouterTelemetry.Stats

/-!
# Gauges

The measurements that are taken at regular times: what the spool holds, and how many items wait in each
queue.
-/

namespace RouterTelemetry.Sampler

/-- How often measurements are taken, in nanoseconds: every two seconds. -/
def period : Nat := 2000000000

/-- The counters after a look at the spool and at queues, of which the stream and the depth are given. -/
def sample (stats : Stats) (spool : Spool) (queues : List (Stream × Nat)) : Stats :=
  let stats := (stats.set .spoolBytes spool.sizeBytes).set .spoolBatches spool.count
  queues.foldl (fun s (stream, depth) => s.setDepth stream depth) stats

end RouterTelemetry.Sampler
