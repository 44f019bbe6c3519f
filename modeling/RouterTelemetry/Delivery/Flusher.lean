import RouterTelemetry.Delivery.Shipment
import RouterTelemetry.Event.Printer
import RouterTelemetry.Mailbox
import RouterTelemetry.Spool.Basic

/-!
# The flusher

The last station of events. They are gathered into batches, and each batch is sent to the collector; one that
cannot be delivered goes to the spool, from which it is replayed later. Every call is described by the single
steps that it takes, for calls run side by side: a request and an operation of the spool are one step each.
-/

namespace RouterTelemetry.Delivery

open Text (Bytes)
open Time (Instant)

/-- What the calls share. -/
structure Flusher where
  routerId : String
  /-- How many events make a batch. -/
  maxEvents : Nat
  /-- How often the replay of a batch is tried. -/
  attempts : Nat
  spool : Spool
  inbox : Mailbox Event
  /-- Whether events may still be sent to the inbox. -/
  sendersOpen : Bool := true
  stats : Stats := {}
  /-- Whether a replay is in progress. -/
  replaying : Bool := false

namespace Flusher

/-- The number of events at which a batch is full: one at least. -/
def batchLimit (f : Flusher) : Nat :=
  max 1 f.maxEvents

/-- The payload of a batch of events. -/
def payload (f : Flusher) (now : Instant) (events : List Event) : Bytes :=
  Batch.toPayload ⟨f.routerId, now, events⟩

/-- The flusher after an attempt that was answered so. -/
def counted (f : Flusher) (reply : Reply) : Flusher :=
  { f with stats := countReply f.stats reply }

/-- Offers an event to the inbox. -/
def ingest (f : Flusher) (e : Event) : Bool × Flusher :=
  let (ok, inbox, stats) := f.inbox.send .httpBatch f.stats e
  (ok, { f with inbox, stats })

end Flusher

/-- What time it is: on the calendar, and for the names of files. -/
structure Clock where
  wall : Instant
  nanos : Nat
deriving DecidableEq, Repr

/-- What a step meets with: the time, what the file system does, what the collector answers if it is asked,
and whether the call is seen to be cancelled. -/
structure Moment where
  clock : Clock
  disk : Spool.Disk := {}
  reply : Reply
  cancelled : Bool := false

/-! ## Sending a batch -/

/-- What became of a batch. -/
inductive Fate where
  | delivered
  | spooled
  | rejected
deriving DecidableEq, Repr

/-- A batch on its way: to be sent, to be spooled, or at its end. -/
inductive Send where
  | posting (payload : Bytes)
  | storing (payload : Bytes)
  | done (fate : Fate)
deriving DecidableEq, Repr

namespace Send

/-- The payload that the next step sends, if it makes a request. -/
def request? : Send → Option Bytes
  | .posting p => some p
  | _ => none

/-- Whether the batch is at its end. -/
def isDone : Send → Bool
  | .done _ => true
  | _ => false

/-- The next step of a batch. -/
def step (m : Moment) (f : Flusher) : Send → Send × Flusher
  | .posting p =>
    match m.reply.result with
    | .ok _ => (.done .delivered, f.counted m.reply)
    | .error _ => (.storing p, f.counted m.reply)
  | .storing p =>
    match f.spool.enqueue m.clock.nanos p m.disk with
    | (.ok _, spool) => (.done .spooled, { f with spool })
    | (.error _, spool) =>
      (.done .rejected, { f with spool, stats := f.stats.incr .spoolDroppedBatches })
  | .done fate => (.done fate, f)

end Send

/-! ## Replaying the spool -/

/-- A pass over the spool, with the number of batches it has delivered: it has not started, it looks for
the oldest batch, it sends one, it removes one that was delivered, or it is over. -/
inductive Replay where
  | starting
  | looking (delivered : Nat)
  | sending (batch : Spool.StoredBatch) (failed delivered : Nat)
  | removing (name : Spool.Name) (delivered : Nat)
  | over (delivered : Nat)
deriving DecidableEq, Repr

namespace Replay

/-- The payload that the next step sends, if it makes a request. -/
def request? (cancelled : Bool) : Replay → Option Bytes
  | .sending b _ _ => if cancelled then none else some b.content
  | _ => none

/-- The number of batches that a pass has delivered. -/
def delivered : Replay → Nat
  | .starting => 0
  | .looking n => n
  | .sending _ _ n => n
  | .removing _ n => n
  | .over n => n

/-- Whether a pass is over. -/
def isOver : Replay → Bool
  | .over _ => true
  | _ => false

/-- A pass ends, and another one may start. -/
def leave (n : Nat) (f : Flusher) : Replay × Flusher :=
  (.over n, { f with replaying := false })

/-- The next step of a pass. A pass that starts while another one is in progress is over at once. -/
def step (m : Moment) (f : Flusher) : Replay → Replay × Flusher
  | .starting =>
    if f.replaying then (.over 0, f) else (.looking 0, { f with replaying := true })
  | .looking n =>
    if m.cancelled then leave n f
    else match f.spool.dequeueOldest m.disk with
      | .ok b => (.sending b 0 n, f)
      | .error _ => leave n f
  | .sending b failed n =>
    let f := if m.cancelled then f else f.counted m.reply
    match (Shipment.due failed).step (Shipment.limit f.attempts) m.cancelled m.reply with
    | .due failed => (.sending b failed n, f)
    | .over (.ok _) => (.removing b.name n, f)
    | .over (.error _) => leave n f
  | .removing name n =>
    match f.spool.ack name m.disk with
    | (.ok _, spool) => (.looking (n + 1), { f with spool })
    | (.error _, spool) => leave n { f with spool }
  | .over n => (.over n, f)

end Replay

/-! ## The worker -/

/-- What the worker does when a batch is at its end. -/
inductive Then where
  | choose
  | replay
  | stop
deriving DecidableEq, Repr

/-- What the worker is at: it waits for something to happen, sends a batch, replays the spool, or has
stopped. -/
inductive Activity where
  | choosing
  | sending (s : Send) (after : Then)
  | replaying (r : Replay)
  | stopped
deriving DecidableEq, Repr

/-- What the worker is at once a batch is at its end. -/
def Then.activity : Then → Activity
  | .choose => .choosing
  | .replay => .replaying .starting
  | .stop => .stopped

/-- The worker, with the events that are not yet a batch. -/
structure Worker where
  batch : List Event := []
  activity : Activity := .choosing
deriving DecidableEq, Repr

/-- What the worker may wait for. -/
inductive Happening where
  | cancelled
  /-- An event is in the inbox, or none will come any more. -/
  | inbox
  | tick
deriving DecidableEq, Repr

namespace Worker

/-- Sends what has been gathered. -/
def handOver (w : Worker) (f : Flusher) (now : Instant) (after : Then) : Worker :=
  { batch := [], activity := .sending (.posting (f.payload now w.batch)) after }

/-- Sends what has been gathered, if there is anything, and stops. -/
def finish (w : Worker) (f : Flusher) (now : Instant) : Worker :=
  if w.batch.isEmpty then { w with activity := .stopped } else w.handOver f now .stop

/-- The worker, which waited, takes note of something. -/
def notice (w : Worker) (f : Flusher) (now : Instant) : Happening → Worker × Flusher
  | .cancelled => (w.finish f now, f)
  | .inbox =>
    match f.inbox.take? with
    | some (e, inbox) =>
      let f := { f with inbox }
      let w := { w with batch := w.batch ++ [e] }
      (if w.batch.length < f.batchLimit then w else w.handOver f now .choose, f)
    | none => (if f.sendersOpen then w else w.finish f now, f)
  | .tick =>
    (if w.batch.isEmpty then { w with activity := .replaying .starting }
      else w.handOver f now .replay, f)

/-- Whether the worker waits for something to happen. -/
def isChoosing (w : Worker) : Bool :=
  match w.activity with
  | .choosing => true
  | _ => false

/-- Whether the worker has stopped. -/
def isStopped (w : Worker) : Bool :=
  match w.activity with
  | .stopped => true
  | _ => false

/-- The payload that the worker's next step sends, if it makes a request. -/
def request? (cancelled : Bool) (w : Worker) : Option Bytes :=
  match w.activity with
  | .sending s _ => s.request?
  | .replaying r => r.request? cancelled
  | _ => none

/-- The worker's next step in sending or replaying. -/
def step (m : Moment) (f : Flusher) (w : Worker) : Worker × Flusher :=
  match w.activity with
  | .sending s after =>
    let (s, f) := s.step m f
    ({ w with activity := if s.isDone then after.activity else .sending s after }, f)
  | .replaying r =>
    let (r, f) := r.step m f
    ({ w with activity := if r.isOver then .choosing else .replaying r }, f)
  | _ => (w, f)

end Worker

end RouterTelemetry.Delivery
