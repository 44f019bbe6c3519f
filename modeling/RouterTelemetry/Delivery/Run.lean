import RouterTelemetry.Delivery.System
import RouterTelemetry.Time.Ticker

/-!
# Runs under a clock

A run of the flusher in which the clock stands still except where it is moved, and in which everything that
can happen without time passing happens at once. What is due at different times happens in the order of
time.
-/

namespace RouterTelemetry.Delivery

open Text (Bytes)
open Time (Instant Ticker)

/-- The signs of life of a router that are due at regular times. -/
structure Heartbeats where
  routerId : String
  ticker : Ticker

/-- A run so far. -/
structure Run where
  system : System
  clock : Clock
  /-- What the collector answers to each request, by its number. -/
  answers : Nat → Reply
  /-- The payloads that were sent, the latest first. -/
  requests : List Bytes := []
  /-- Nanoseconds since the start of the run. -/
  now : Nat := 0
  worker : Option Ticker := none
  replayLoop : Option Ticker := none
  heartbeats : Option Heartbeats := none

namespace Run

/-- The flusher of a run. -/
def flusher (r : Run) : Flusher :=
  r.system.flusher

/-- The moment at which a step is taken: the file system does what it is asked for. -/
def moment (r : Run) (reply : Reply) (cancelled : Bool := false) : Moment :=
  { clock := r.clock, reply, cancelled }

/-- Takes a step, which is given the collector's next answer. -/
def take (r : Run) (step : Reply → Step) : Run :=
  let reply := r.answers r.requests.length
  let system := r.system.step (step reply)
  match r.system.request? (step reply) with
  | some p => { r with system, requests := p :: r.requests }
  | none => { r with system }

/-- More steps than any call takes that finds the flusher as it is now. -/
def patience (r : Run) : Nat :=
  2 * (r.flusher.inbox.depth + r.flusher.spool.count + 2) * (Shipment.limit r.flusher.attempts + 6)

/-! ## The worker -/

/-- Lets the worker go on until it waits and nothing is in the inbox, or has stopped. -/
def settleWithin (cancelled : Bool) : Nat → Run → Run
  | 0, r => r
  | fuel + 1, r =>
    match r.system.worker.activity with
    | .stopped => r
    | .choosing =>
      if cancelled then
        settleWithin cancelled fuel (r.take fun _ => .notice r.clock.wall .cancelled)
      else if r.flusher.inbox.depth = 0 && r.flusher.sendersOpen then r
      else settleWithin cancelled fuel (r.take fun _ => .notice r.clock.wall .inbox)
    | _ => settleWithin cancelled fuel (r.take fun reply => .work (r.moment reply cancelled))

/-- Lets the worker go on, if it was started. Once it is cancelled it takes no more events. -/
def settle (cancelled : Bool) (r : Run) : Run :=
  if r.worker.isSome then r.settleWithin cancelled r.patience else r

/-- Starts the worker. -/
def start (r : Run) (maxWait : Nat) : Run :=
  { r with worker := some (.delayed r.now maxWait), system := { r.system with worker := {} } }.settle false

/-- Offers events to the inbox: which of them were accepted. -/
def ingest (r : Run) (events : List Event) : List Bool × Run :=
  let (oks, r) := events.foldl (fun (acc : List Bool × Run) e =>
    (acc.2.flusher.inbox.hasRoom :: acc.1, acc.2.take fun _ => .ingest e)) ([], r)
  (oks.reverse, r.settle false)

/-! ## Calls -/

/-- Lets a pass go on until it is over. It is seen to be cancelled once so many requests were made. -/
def finishPass (index : Nat) (cancelAt : Option Nat) : Nat → Run → Run
  | 0, r => r
  | fuel + 1, r =>
    match r.system.passes[index]? with
    | some (.over _) => r
    | none => r
    | some _ =>
      let cancelled := match cancelAt with
        | some n => n ≤ r.requests.length
        | none => false
      finishPass index cancelAt fuel (r.take fun reply => .pass index (r.moment reply cancelled))

/-- How many batches a pass has delivered. -/
def deliveredBy (r : Run) (index : Nat) : Nat :=
  match r.system.passes[index]? with
  | some p => p.delivered
  | none => 0

/-- Replays the spool: how many batches were delivered. The pass is cancelled after so many requests. -/
def replay (r : Run) (cancelAfter : Option Nat) : Nat × Run :=
  let i := r.system.passes.length
  let limit := cancelAfter.map (· + r.requests.length)
  let r := (r.take fun _ => .startPass).finishPass i limit (r.patience + 2)
  (r.deliveredBy i, r)

/-- Replays the spool twice, the second time while the first pass waits for an answer, or after it if it
never does: how many batches each has delivered. Where requests fail without any waiting, the passes follow
each other. -/
def replayTwice (r : Run) (waiting : Bool) : (Nat × Nat) × Run :=
  let i := r.system.passes.length
  let fuel := r.patience + 2
  let first (r : Run) := r.finishPass i none fuel
  let second (r : Run) := r.finishPass (i + 1) none fuel
  let r := (r.take fun _ => .startPass).take fun _ => .startPass
  let r := (r.take fun reply => .pass i (r.moment reply)).take fun reply => .pass i (r.moment reply)
  let r := if waiting then first (second r) else second (first r)
  ((r.deliveredBy i, r.deliveredBy (i + 1)), r)

/-- Sends events as a batch of their own: whether the collector has accepted it. -/
def send (r : Run) (events : List Event) : Bool × Run :=
  let i := r.system.sends.length
  let r := r.take fun _ => .startSend r.clock.wall events
  let r := (r.take fun reply => .send i (r.moment reply)).take fun reply => .send i (r.moment reply)
  let ok := match r.system.sends[i]? with
    | some (.done .delivered) => true
    | _ => false
  (ok, r)

/-- Stores a payload in the spool. -/
def enqueue (r : Run) (payload : Bytes) : Except Spool.Error Unit × Run :=
  let (result, spool) := r.flusher.spool.enqueue r.clock.nanos payload
  (result, { r with system := { r.system with flusher := { r.flusher with spool } } })

/-! ## Time -/

/-- Something that is due. -/
inductive Due where
  | heartbeat
  | worker
  | replayLoop

/-- The time at which something is due next, if it ever is. -/
def dueAt (r : Run) : Due → Option Nat
  | .heartbeat => r.heartbeats.map (·.ticker.next)
  | .worker => r.worker.map Ticker.next
  | .replayLoop => r.replayLoop.map Ticker.next

/-- The earlier of two things that are due, the first one of two at the same time. -/
def earlier (r : Run) (a : Option Due) (b : Due) : Option Due :=
  match a.bind r.dueAt, r.dueAt b with
  | some x, some y => if y < x then some b else a
  | none, some _ => some b
  | _, none => a

/-- What is due first. -/
def nextDue (r : Run) : Option Due :=
  [Due.heartbeat, .worker, .replayLoop].foldl r.earlier none

/-- Does what is due. -/
def happen (r : Run) : Due → Run
  | .heartbeat =>
    match r.heartbeats with
    | some h =>
      let e : Event := ⟨r.clock.wall, .heartbeat ⟨h.routerId⟩⟩
      ({ r with heartbeats := some { h with ticker := h.ticker.fired 1 } }.ingest [e]).2
    | none => r
  | .worker =>
    let r : Run := { r with worker := r.worker.map (Ticker.fired · 1) }
    (r.take fun _ => .notice r.clock.wall .tick).settle false
  | .replayLoop =>
    let r : Run := { r with replayLoop := r.replayLoop.map (Ticker.fired · 1) }
    (r.replay none).2

/-- Does what is due up to a time, in order. -/
def advanceTo (time : Nat) : Nat → Run → Run
  | 0, r => { r with now := time }
  | fuel + 1, r =>
    match r.nextDue with
    | some d =>
      match r.dueAt d with
      | some t => if t ≤ time then advanceTo time fuel (r.happen d) else { r with now := time }
      | none => { r with now := time }
    | none => { r with now := time }

/-- How often a ticker is due up to a time. -/
def dueCount (time : Nat) (t : Option Ticker) : Nat :=
  match t with
  | some t => t.due time
  | none => 0

/-- Moves the clock on. -/
def advance (r : Run) (nanos : Nat) : Run :=
  let time := r.now + nanos
  let count := dueCount time r.worker + dueCount time r.replayLoop
    + dueCount time (r.heartbeats.map (·.ticker))
  r.advanceTo time (count + 1)

/-- Gives signs of life while the clock is moved on by some spans. -/
def heartbeat (r : Run) (routerId : String) (interval : Nat) (spans : List Nat) : Run :=
  let r := { r with heartbeats := some ⟨routerId, .delayed r.now interval⟩ }
  { spans.foldl advance r with heartbeats := none }

/-- Starts to replay the spool at regular times. -/
def startReplayLoop (r : Run) (interval : Nat) : Run :=
  { r with replayLoop := some (.delayed r.now interval) }

/-- Stops what was started, and waits until it has stopped. -/
def cancel (r : Run) : Run :=
  { r.settle true with worker := none, replayLoop := none }

/-- Lets no more events come, and waits until the worker has stopped. -/
def dropSender (r : Run) : Run :=
  { (r.take fun _ => .sendersClosed).settle false with worker := none, replayLoop := none }

end Run

end RouterTelemetry.Delivery
