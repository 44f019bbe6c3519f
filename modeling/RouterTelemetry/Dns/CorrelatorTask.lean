import RouterTelemetry.Dns.Correlator
import RouterTelemetry.Mailbox
import RouterTelemetry.Time.Ticker

/-!
# The correlator at work

The correlator takes lines from a mailbox and once a minute sends what it has gathered to another. It is
described by the steps that it and its surroundings take, one at a time, in whatever order they happen.
-/

namespace RouterTelemetry.Dns

open Time

/-- The correlator between its two mailboxes. -/
structure CorrelatorTask where
  correlator : Correlator
  lines : Mailbox String
  out : Mailbox Event
  stats : Stats := {}
  /-- Whether lines may still come. -/
  sourceOpen : Bool := true
  running : Bool := true

namespace CorrelatorTask

/-- How often the correlator is flushed, in nanoseconds: once a minute. -/
def flushPeriod : Nat := 60 * nanosPerSecond

/-- The stream under which an event counts. -/
def streamOf (e : Event) : Stream :=
  match e.payload with
  | .dnsBucket _ => .dnsBucket
  | _ => .hostIdentity

/-- Sends events in their order, each under its own stream. -/
def offer (out : Mailbox Event) (stats : Stats) (es : List Event) : Mailbox Event × Stats :=
  es.foldl (fun (m, s) e => (m.send (streamOf e) s e).2) (out, stats)

/-- What can happen. -/
inductive Step where
  /-- A line is sent to the task. -/
  | lineSent (line : String)
  /-- No more lines will come. -/
  | sourceClosed
  /-- The task takes the next line, or learns that there will be none. -/
  | lineTaken (now : Instant)
  /-- A minute is over. -/
  | tick (now : Instant)
  | cancelled
  /-- The consumer takes the oldest event. -/
  | eventTaken
  /-- Another part of the agent sends an event to the same mailbox. -/
  | eventSent (stream : Stream) (e : Event)
deriving Repr

/-- The task stops, and nobody is left to take lines. -/
def stop (t : CorrelatorTask) : CorrelatorTask :=
  { t with running := false, lines := t.lines.discard }

/-- The task after a step. -/
def step (zone : Zone) (t : CorrelatorTask) : Step → CorrelatorTask
  | .lineSent line =>
    let (_, lines, stats) := t.lines.send .dnsLines t.stats line
    { t with lines, stats }
  | .sourceClosed => { t with sourceOpen := false }
  | .lineTaken now =>
    if !t.running then t
    else match t.lines.take? with
      | some (line, lines) =>
        let (correlator, stats) := t.correlator.processLine zone t.stats line now
        { t with correlator, lines, stats }
      | none => if t.sourceOpen then t else t.stop
  | .tick now =>
    if !t.running then t
    else
      let (es, correlator, stats) := t.correlator.flush t.stats now
      let (out, stats) := offer t.out stats es
      { t with correlator, out, stats }
  | .cancelled => t.stop
  | .eventTaken =>
    match t.out.take? with
    | some (_, out) => { t with out }
    | none => t
  | .eventSent stream e =>
    let (_, out, stats) := t.out.send stream t.stats e
    { t with out, stats }

/-- The task after some steps. -/
def steps (zone : Zone) (t : CorrelatorTask) (ss : List Step) : CorrelatorTask :=
  ss.foldl (step zone) t

/-- The task when it has taken all lines that wait. -/
def settle (zone : Zone) (now : Instant) (t : CorrelatorTask) : CorrelatorTask :=
  steps zone t (List.replicate (t.lines.depth + 1) (.lineTaken now))

end CorrelatorTask

end RouterTelemetry.Dns
