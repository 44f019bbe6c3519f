import RouterTelemetry.Delivery.Outcome
import RouterTelemetry.Stats

/-!
# Shipments

The delivery of one payload with several attempts. An attempt is one request; after a failure the next one
follows, up to a limit, unless the delivery is cancelled before it or while it is waited for.
-/

namespace RouterTelemetry.Delivery

/-- The counters after an attempt that was answered so. -/
def countReply (stats : Stats) (reply : Reply) : Stats :=
  match reply.result with
  | .ok _ => stats.incr .httpBatchesSent
  | .error f => stats.recordSendError f.label

/-- A delivery: so many attempts failed and the next one is due, or it is over. -/
inductive Shipment where
  | due (failed : Nat)
  | over (result : Except Failure Unit)

namespace Shipment

/-- How many attempts are made at most: one at least. -/
def limit (attempts : Nat) : Nat :=
  max 1 attempts

/-- The delivery after its next attempt, which is answered by `reply` if it is made at all. -/
def step (limit : Nat) (cancelled : Bool) (reply : Reply) : Shipment → Shipment
  | .due failed =>
    if cancelled then .over (.error .cancelled)
    else match reply.result with
      | .ok _ => .over (.ok ())
      | .error f => if failed + 1 < limit then .due (failed + 1) else .over (.error f)
  | .over r => .over r

/-- Whether the next step makes a request. -/
def makesRequest (cancelled : Bool) : Shipment → Bool
  | .due _ => !cancelled
  | .over _ => false

/-- The result of a delivery; one that is not over counts as cancelled. -/
def result : Shipment → Except Failure Unit
  | .over r => r
  | .due _ => .error .cancelled

/-- Runs a delivery whose attempts are answered by `replies`, and in which `cancelled` says after how many
failures it is seen to be cancelled: the result, the counters, and how many attempts were made. -/
def run (limit : Nat) (cancelled : Nat → Bool) (replies : Nat → Reply) :
    Nat → Nat → Stats → Except Failure Unit × Stats × Nat
  | 0, failed, stats => (.error .cancelled, stats, failed)
  | fuel + 1, failed, stats =>
    if cancelled failed then (.error .cancelled, stats, failed)
    else
      let reply := replies failed
      let stats := countReply stats reply
      match (Shipment.due failed).step limit false reply with
      | .due n => run limit cancelled replies fuel n stats
      | .over r => (r, stats, failed + 1)

end Shipment

/-- Delivers a payload with at most so many attempts, and with one at least. -/
def shipWithRetry (attempts : Nat) (cancelled : Nat → Bool) (replies : Nat → Reply) (stats : Stats) :
    Except Failure Unit × Stats × Nat :=
  Shipment.run (Shipment.limit attempts) cancelled replies (Shipment.limit attempts + 1) 0 stats

end RouterTelemetry.Delivery
