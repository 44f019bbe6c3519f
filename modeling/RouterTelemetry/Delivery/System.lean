import RouterTelemetry.Delivery.Flusher

/-!
# Calls side by side

The flusher with all calls that are in progress: the worker, passes over the spool, and batches that are sent
directly. A run is a list of steps in the order in which they happen; any step may follow any other.
-/

namespace RouterTelemetry.Delivery

open Time (Instant)

/-- The flusher and its calls. -/
structure System where
  flusher : Flusher
  worker : Worker := {}
  passes : List Replay := []
  sends : List Send := []

/-- What can happen. -/
inductive Step where
  /-- An event is offered to the inbox. -/
  | ingest (e : Event)
  | sendersClosed
  /-- The worker, which waits, takes note of something. -/
  | notice (now : Instant) (h : Happening)
  /-- The worker goes on with what it is at. -/
  | work (m : Moment)
  /-- A pass over the spool is called for. -/
  | startPass
  /-- A pass goes on. -/
  | pass (index : Nat) (m : Moment)
  /-- A batch is to be sent directly. -/
  | startSend (now : Instant) (events : List Event)
  /-- A batch goes on. -/
  | send (index : Nat) (m : Moment)

namespace System

/-- The system after a step. -/
def step (s : System) : Step → System
  | .ingest e => { s with flusher := (s.flusher.ingest e).2 }
  | .sendersClosed => { s with flusher := { s.flusher with sendersOpen := false } }
  | .notice now h =>
    if s.worker.isChoosing then
      let (worker, flusher) := s.worker.notice s.flusher now h
      { s with worker, flusher }
    else s
  | .work m =>
    let (worker, flusher) := s.worker.step m s.flusher
    { s with worker, flusher }
  | .startPass => { s with passes := s.passes ++ [.starting] }
  | .pass i m =>
    match s.passes[i]? with
    | some r =>
      let (r, flusher) := r.step m s.flusher
      { s with flusher, passes := s.passes.set i r }
    | none => s
  | .startSend now events =>
    if events.isEmpty then { s with sends := s.sends ++ [.done .delivered] }
    else { s with sends := s.sends ++ [.posting (s.flusher.payload now events)] }
  | .send i m =>
    match s.sends[i]? with
    | some b =>
      let (b, flusher) := b.step m s.flusher
      { s with flusher, sends := s.sends.set i b }
    | none => s

/-- The system after some steps. -/
def steps (s : System) (ss : List Step) : System :=
  ss.foldl step s

/-- The payload that a step sends, if it makes a request. -/
def request? (s : System) : Step → Option Text.Bytes
  | .work m => s.worker.request? m.cancelled
  | .pass i m => (s.passes[i]?).bind (·.request? m.cancelled)
  | .send i _ => (s.sends[i]?).bind Send.request?
  | _ => none

end System

end RouterTelemetry.Delivery
