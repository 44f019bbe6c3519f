import RouterTelemetry.Dns.CorrelatorTask
import RouterTelemetry.Proofs.Dns.Calls
import RouterTelemetry.Proofs.Mailbox.Accounting
/-!
# Runs of the correlator, event by event

The steps of the correlator at work send all events of a flush at once. Here the events of a flush are sent one by
one, other parts of the agent may send events and the consumer may take some in between, and it is kept in mind
what has happened so far. Main statements:

* `TaskRun.lineTaken_cases` : the ways in which the task takes a line;
* `TaskRun.takesStep` : a step that nothing interrupts is one step of the task, with the calls and events of that step;
* `TaskRun.pauses` : what happens while events wait;
* `TaskRun.exists_moves` : each run of the task is a run of this kind.
-/

namespace RouterTelemetry.Dns

open Time
open CorrelatorTask (streamOf)

/-! ## Runs -/

/-- An event that was sent to the outbound mailbox. -/
structure Sending where
  /-- Whether the task sent it, and not another part of the agent. -/
  own : Bool
  stream : Stream
  event : Event
  accepted : Bool

/-- The task with what it still has to send, and what has happened so far. -/
structure TaskRun where
  task : CorrelatorTask
  /-- The handle of the outbound mailbox that the task was given. -/
  handle : Mailbox.Handle
  /-- The events of a flush that are not sent yet. Between two branches of the task there are none. -/
  waiting : List Event := []
  /-- The lines that have come into the mailbox. -/
  arrived : List String
  /-- What the task has called its correlator for. -/
  calls : List Call := []
  /-- The events that each flush gave out. -/
  flushes : List (List Event) := []
  /-- The events that were sent to the outbound mailbox. -/
  sendings : List Sending := []
  /-- The events that the consumer has taken. -/
  received : List Event := []
  /-- How many lines found no room. -/
  lostLines : Nat := 0

/-- The events that the task has sent. -/
def TaskRun.offered (r : TaskRun) : List Event :=
  (r.sendings.filter Sending.own).map Sending.event

/-- What can happen: a step of the task or of its surroundings, or the task sends one more event of a flush. -/
inductive Move where
  | step (s : CorrelatorTask.Step)
  | offer

namespace TaskRun

/-- A task that is about to run. -/
def start (t : CorrelatorTask) (handle : Mailbox.Handle) : TaskRun :=
  { task := t, handle, arrived := t.lines.queue }

/-- An event is sent to the outbound mailbox. -/
def send (r : TaskRun) (own : Bool) (h : Mailbox.Handle) (e : Event) : TaskRun :=
  let (accepted, out, stats) := h.send r.task.out r.task.stats e
  { r with
    task := { r.task with out, stats }
    sendings := r.sendings ++ [⟨own, h.stream, e, accepted⟩] }

/-- The task sends the next event of a flush, through a handle that it has made for events of its kind. -/
def offer (r : TaskRun) : TaskRun :=
  match r.waiting with
  | [] => r
  | e :: rest => { r with waiting := rest }.send true (r.handle.relabel (streamOf e)) e

/-- A line is sent to the task. -/
def lineSent (zone : Zone) (r : TaskRun) (line : String) : TaskRun :=
  let r' := { r with task := r.task.step zone (.lineSent line) }
  if r.task.lines.hasRoom then { r' with arrived := r.arrived ++ [line] }
  else { r' with lostLines := r.lostLines + 1 }

/-- The task takes the next line. -/
def lineTaken (zone : Zone) (r : TaskRun) (now : Instant) : TaskRun :=
  let line? := if r.task.running then r.task.lines.take?.map Prod.fst else none
  { r with
    task := r.task.step zone (.lineTaken now)
    calls := r.calls ++ (line?.map fun line => Call.line line now).toList }

/-- The task flushes its correlator. -/
def flush (r : TaskRun) (now : Instant) : TaskRun :=
  if r.task.running then
    let (events, correlator, stats) := r.task.correlator.flush r.task.stats now
    { r with
      task := { r.task with correlator, stats }
      waiting := events
      calls := r.calls ++ [.flush now]
      flushes := r.flushes ++ [events] }
  else r

/-- The consumer takes the oldest event. -/
def eventTaken (zone : Zone) (r : TaskRun) : TaskRun :=
  { r with
    task := r.task.step zone .eventTaken
    received := r.received ++ (r.task.out.take?.map Prod.fst).toList }

/-- The run after a move. While events of a flush wait the task does nothing else. -/
def move (zone : Zone) (r : TaskRun) : Move → TaskRun
  | .offer => r.offer
  | .step (.lineSent line) => r.lineSent zone line
  | .step .sourceClosed => { r with task := r.task.step zone .sourceClosed }
  | .step .eventTaken => r.eventTaken zone
  | .step (.eventSent stream e) => r.send false ⟨stream⟩ e
  | .step (.lineTaken now) => if r.waiting.isEmpty then r.lineTaken zone now else r
  | .step (.tick now) => if r.waiting.isEmpty then r.flush now else r
  | .step .cancelled =>
    if r.waiting.isEmpty then { r with task := r.task.step zone .cancelled } else r

/-- The run after some moves. -/
def moves (zone : Zone) (r : TaskRun) (ms : List Move) : TaskRun :=
  ms.foldl (move zone) r

theorem send_of_hasRoom {r : TaskRun} (hroom : r.task.out.hasRoom = true) (own : Bool)
    (h : Mailbox.Handle) (e : Event) :
    r.send own h e =
      { r with
        task := { r.task with out := { r.task.out with queue := r.task.out.queue ++ [e] } }
        sendings := r.sendings ++ [⟨own, h.stream, e, true⟩] } := by
  rw [send, Mailbox.Handle.send, Mailbox.send_of_hasRoom hroom]

theorem send_of_not_hasRoom {r : TaskRun} (hroom : r.task.out.hasRoom = false) (own : Bool)
    (h : Mailbox.Handle) (e : Event) :
    r.send own h e =
      { r with
        task := { r.task with stats := r.task.stats.recordDrop h.stream }
        sendings := r.sendings ++ [⟨own, h.stream, e, false⟩] } := by
  rw [send, Mailbox.Handle.send, Mailbox.send_of_not_hasRoom hroom]

/-- What is sent is accepted if there is room. -/
theorem sendings_send (r : TaskRun) (own : Bool) (h : Mailbox.Handle) (e : Event) :
    (r.send own h e).sendings = r.sendings ++ [⟨own, h.stream, e, r.task.out.hasRoom⟩] := by
  cases hroom : r.task.out.hasRoom with
  | true => rw [send_of_hasRoom hroom]
  | false => rw [send_of_not_hasRoom hroom]

/-- What is left alone when a line is sent to the task. -/
theorem lineSent_spec (zone : Zone) (r : TaskRun) (line : String) :
    (r.lineSent zone line).task = r.task.step zone (.lineSent line) ∧ (r.lineSent zone line).waiting = r.waiting ∧
      (r.lineSent zone line).calls = r.calls ∧ (r.lineSent zone line).flushes = r.flushes ∧
      (r.lineSent zone line).sendings = r.sendings := by
  rw [lineSent]
  split <;> exact ⟨rfl, rfl, rfl, rfl, rfl⟩

theorem lineSent_of_hasRoom (zone : Zone) {r : TaskRun} (hroom : r.task.lines.hasRoom = true)
    (line : String) :
    r.lineSent zone line =
      { r with
        task := { r.task with
          lines := { r.task.lines with queue := r.task.lines.queue ++ [line] } }
        arrived := r.arrived ++ [line] } := by
  simp only [lineSent, if_pos hroom, CorrelatorTask.step, Mailbox.send_of_hasRoom hroom]

theorem lineSent_of_not_hasRoom (zone : Zone) {r : TaskRun}
    (hroom : r.task.lines.hasRoom = false) (line : String) :
    r.lineSent zone line =
      { r with
        task := { r.task with stats := r.task.stats.recordDrop .dnsLines }
        lostLines := r.lostLines + 1 } := by
  simp only [lineSent, hroom, Bool.false_eq_true, if_false, CorrelatorTask.step,
    Mailbox.send_of_not_hasRoom hroom]

/-- The ways in which the task takes a line: it does nothing, or it stops since no line will come, or it hands
the oldest line to its correlator. -/
theorem lineTaken_cases (zone : Zone) (r : TaskRun) (now : Instant) :
    r.lineTaken zone now = r ∨
      r.lineTaken zone now = { r with task := r.task.stop } ∨
      ∃ line rest, r.task.running = true ∧ r.task.lines.queue = line :: rest ∧
        r.lineTaken zone now =
          { r with
            task := { r.task with
              correlator := (r.task.correlator.processLine zone r.task.stats line now).1
              stats := (r.task.correlator.processLine zone r.task.stats line now).2
              lines := { r.task.lines with queue := rest } }
            calls := r.calls ++ [.line line now] } := by
  cases hrunning : r.task.running with
  | false =>
    refine Or.inl ?_
    simp [lineTaken, CorrelatorTask.step, hrunning]
  | true =>
    cases hqueue : r.task.lines.queue with
    | nil =>
      cases hsource : r.task.sourceOpen with
      | true =>
        refine Or.inl ?_
        simp [lineTaken, CorrelatorTask.step, Mailbox.take?, hrunning, hqueue, hsource]
      | false =>
        refine Or.inr (Or.inl ?_)
        simp [lineTaken, CorrelatorTask.step, Mailbox.take?, hrunning, hqueue, hsource]
    | cons line rest =>
      refine Or.inr (Or.inr ⟨line, rest, rfl, rfl, ?_⟩)
      simp [lineTaken, CorrelatorTask.step, Mailbox.take?, hrunning, hqueue]

end TaskRun

/-! ## The steps of the task -/

/-- Whether a step is one of the task itself, between two of its branches, and not one of its surroundings. -/
def isOwnStep : CorrelatorTask.Step → Bool
  | .lineTaken _ | .tick _ | .cancelled => true
  | _ => false

/-- What the task calls its correlator for at a step: the oldest line, or a flush. -/
def callsAt (t : CorrelatorTask) : CorrelatorTask.Step → List Call
  | .lineTaken now => if t.running then (t.lines.queue.head?.map (Call.line · now)).toList else []
  | .tick now => if t.running then [.flush now] else []
  | _ => []

/-- The events that the task has to send at a step: those that the flush returns. -/
def eventsAt (t : CorrelatorTask) : CorrelatorTask.Step → List Event
  | .tick now => if t.running then (t.correlator.flush t.stats now).1 else []
  | _ => []

/-- What the task calls its correlator for at some steps. -/
def callsOver (zone : Zone) (t : CorrelatorTask) : List CorrelatorTask.Step → List Call
  | [] => []
  | s :: ss => callsAt t s ++ callsOver zone (t.step zone s) ss

/-- The events that the task has to send at some steps. -/
def eventsOver (zone : Zone) (t : CorrelatorTask) : List CorrelatorTask.Step → List Event
  | [] => []
  | s :: ss => eventsAt t s ++ eventsOver zone (t.step zone s) ss

/-- A step between two branches of the task. The correlator is called as the step says, and what a flush returns waits
to be sent; when all of it is sent, in its order, the task is as it is after the step. -/
structure TakesStep (zone : Zone) (r : TaskRun) (s : CorrelatorTask.Step) : Prop where
  calls : (r.move zone (.step s)).calls = r.calls ++ callsAt r.task s
  waiting : (r.move zone (.step s)).waiting = eventsAt r.task s
  flushes : (r.move zone (.step s)).flushes.flatten = r.flushes.flatten ++ eventsAt r.task s
  settled : ∃ r', r.moves zone (.step s :: List.replicate (eventsAt r.task s).length .offer) = r' ∧
    r'.waiting = [] ∧ r'.task = r.task.step zone s ∧ r'.calls = r.calls ++ callsAt r.task s ∧
      r'.offered = r.offered ++ eventsAt r.task s

/-- What happens while events wait: the task sends the next one under the stream of its kind, and takes no step before
all are sent; its surroundings take their steps, and do not meddle with what waits. -/
structure Pauses (zone : Zone) (r : TaskRun) (e : Event) (rest : List Event) : Prop where
  sent : (r.move zone .offer).sendings = r.sendings ++ [⟨true, streamOf e, e, r.task.out.hasRoom⟩]
  task : (r.move zone .offer).task =
    { r.task with
      out := (CorrelatorTask.offer r.task.out r.task.stats [e]).1
      stats := (CorrelatorTask.offer r.task.out r.task.stats [e]).2 }
  waiting : (r.move zone .offer).waiting = rest
  own : ∀ s, isOwnStep s = true → r.move zone (.step s) = r
  others : ∀ s, isOwnStep s = false →
    (r.move zone (.step s)).task = r.task.step zone s ∧ (r.move zone (.step s)).waiting = e :: rest ∧
      (r.move zone (.step s)).calls = r.calls ∧ (r.move zone (.step s)).flushes = r.flushes

namespace TaskRun

variable {zone : Zone} {r : TaskRun}

/-- What others send is none of the events of the task. -/
theorem offered_send (r : TaskRun) (h : Mailbox.Handle) (e : Event) : (r.send false h e).offered = r.offered := by
  rw [offered, sendings_send, List.filter_append, List.map_append]
  exact List.append_nil _

theorem offer_of_waiting {e : Event} {rest : List Event} (h : r.waiting = e :: rest) :
    r.offer = { r with waiting := rest }.send true (r.handle.relabel (streamOf e)) e := by
  rw [offer, h]

/-- When all events that wait are sent, the task has offered them in their order, and done nothing else. -/
theorem moves_offer (zone : Zone) (r : TaskRun) :
    ∃ r', r.moves zone (List.replicate r.waiting.length .offer) = r' ∧ r'.waiting = [] ∧
      r'.task =
        { r.task with
          out := (CorrelatorTask.offer r.task.out r.task.stats r.waiting).1
          stats := (CorrelatorTask.offer r.task.out r.task.stats r.waiting).2 } ∧
      r'.calls = r.calls ∧ r'.offered = r.offered ++ r.waiting := by
  generalize hes : r.waiting = es
  induction es generalizing r with
  | nil => exact ⟨r, rfl, hes, rfl, rfl, (List.append_nil _).symm⟩
  | cons e es ih =>
    have hoffer : r.move zone .offer = { r with waiting := es }.send true (r.handle.relabel (streamOf e)) e :=
      offer_of_waiting hes
    have hoffered : (r.move zone .offer).offered = r.offered ++ [e] := by
      rw [hoffer, offered, sendings_send, List.filter_append, List.map_append]
      rfl
    have hwaiting : (r.move zone .offer).waiting = es := by
      rw [hoffer]
      rfl
    obtain ⟨r', hr', hdone, htask, hcalls, hall⟩ := ih (r.move zone .offer) hwaiting
    refine ⟨r', hr', hdone, htask.trans ?_, hcalls.trans ?_, ?_⟩
    · rw [hoffer]
      rfl
    · rw [hoffer]
      rfl
    · rw [hall, hoffered, List.append_assoc]
      rfl

/-- A step at which nothing is to be sent. -/
theorem takesStep_of_eventsAt_eq_nil {s : CorrelatorTask.Step} (hnone : eventsAt r.task s = [])
    (hwaiting : (r.move zone (.step s)).waiting = [])
    (hcalls : (r.move zone (.step s)).calls = r.calls ++ callsAt r.task s)
    (hflushes : (r.move zone (.step s)).flushes = r.flushes)
    (htask : (r.move zone (.step s)).task = r.task.step zone s)
    (hoffered : (r.move zone (.step s)).offered = r.offered) : TakesStep zone r s where
  calls := hcalls
  waiting := by rw [hwaiting, hnone]
  flushes := by rw [hflushes, hnone, List.append_nil]
  settled := by
    rw [hnone]
    exact ⟨_, rfl, hwaiting, htask, hcalls, by rw [List.append_nil]; exact hoffered⟩

/-- A flush that nothing interrupts. -/
theorem takesStep_tick (h : r.waiting = []) (now : Instant) : TakesStep zone r (.tick now) := by
  have hmove : r.move zone (.step (.tick now)) = r.flush now := by
    rw [move, h]
    rfl
  cases hrunning : r.task.running with
  | false =>
    have hsame : r.move zone (.step (.tick now)) = r := by
      rw [hmove, flush, if_neg (by rw [hrunning]; exact Bool.false_ne_true)]
    apply takesStep_of_eventsAt_eq_nil
    case hnone => simp [eventsAt, hrunning]
    case hwaiting => rw [hsame, h]
    case hcalls => rw [hsame]; simp [callsAt, hrunning]
    case hflushes => rw [hsame]
    case htask => rw [hsame]; simp [CorrelatorTask.step, hrunning]
    case hoffered => rw [hsame]
  | true =>
    have hcalls : (r.move zone (.step (.tick now))).calls = r.calls ++ callsAt r.task (.tick now) := by
      rw [hmove]
      simp [flush, callsAt, hrunning]
    have hwaiting : (r.move zone (.step (.tick now))).waiting = eventsAt r.task (.tick now) := by
      rw [hmove]
      simp [flush, eventsAt, hrunning]
    have hoffered : (r.move zone (.step (.tick now))).offered = r.offered := by
      rw [hmove]
      simp [flush, offered, hrunning]
    refine ⟨hcalls, hwaiting, ?_, ?_⟩
    · rw [hmove]
      simp [flush, eventsAt, hrunning]
    · obtain ⟨r', hr', hdone, htask, hcalls', hall⟩ := moves_offer zone (r.move zone (.step (.tick now)))
      rw [hwaiting] at hr' hall
      refine ⟨r', hr', hdone, htask.trans ?_, hcalls'.trans hcalls, by rw [hall, hoffered]⟩
      rw [hmove]
      simp [flush, CorrelatorTask.step, hrunning]

/-- **A step that nothing interrupts is one step of the task.** -/
theorem takesStep (zone : Zone) (h : r.waiting = []) (s : CorrelatorTask.Step) : TakesStep zone r s := by
  have hnothing : r.calls = r.calls ++ [] := (List.append_nil _).symm
  cases s with
  | tick now => exact takesStep_tick h now
  | lineSent line =>
    obtain ⟨htask, hwaiting, hcalls, hflushes, hsendings⟩ := lineSent_spec zone r line
    have hoffered : (r.lineSent zone line).offered = r.offered := by rw [offered, offered, hsendings]
    exact takesStep_of_eventsAt_eq_nil rfl (hwaiting.trans h) (hcalls.trans hnothing) hflushes htask hoffered
  | lineTaken now =>
    have hmove : r.move zone (.step (.lineTaken now)) = r.lineTaken zone now := by
      rw [move, h]
      rfl
    apply takesStep_of_eventsAt_eq_nil rfl
    case hwaiting => rw [hmove]; exact h
    case hflushes => rw [hmove]; rfl
    case htask => rw [hmove]; rfl
    case hoffered => rw [hmove]; rfl
    case hcalls =>
      rw [hmove, lineTaken, callsAt, Mailbox.take?]
      cases r.task.running <;> cases r.task.lines.queue <;> rfl
  | cancelled =>
    have hmove : r.move zone (.step .cancelled) = { r with task := r.task.step zone .cancelled } := by
      rw [move, h]
      rfl
    apply takesStep_of_eventsAt_eq_nil rfl
    case hwaiting => rw [hmove]; exact h
    case hcalls => rw [hmove]; exact hnothing
    case hflushes => rw [hmove]
    case htask => rw [hmove]
    case hoffered => rw [hmove]; rfl
  | sourceClosed => exact takesStep_of_eventsAt_eq_nil rfl h hnothing rfl rfl rfl
  | eventTaken => exact takesStep_of_eventsAt_eq_nil rfl h hnothing rfl rfl rfl
  | eventSent stream e => exact takesStep_of_eventsAt_eq_nil rfl h hnothing rfl rfl (r.offered_send ⟨stream⟩ e)

/-- **What happens while events wait.** -/
theorem pauses (zone : Zone) {e : Event} {rest : List Event} (h : r.waiting = e :: rest) : Pauses zone r e rest := by
  have hoffer : r.move zone .offer = { r with waiting := rest }.send true (r.handle.relabel (streamOf e)) e :=
    offer_of_waiting h
  have hbusy : r.waiting.isEmpty = false := by
    rw [h]
    rfl
  constructor
  case sent =>
    rw [hoffer, sendings_send]
    rfl
  case task =>
    rw [hoffer]
    rfl
  case waiting =>
    rw [hoffer]
    rfl
  case own =>
    intro s hs
    cases s with
    | lineTaken now | tick now | cancelled =>
      rw [move, hbusy]
      rfl
    | _ => exact Bool.noConfusion hs
  case others =>
    intro s hs
    cases s with
    | lineTaken now | tick now | cancelled => exact Bool.noConfusion hs
    | lineSent line =>
      obtain ⟨htask, hwaiting, hcalls, hflushes, -⟩ := lineSent_spec zone r line
      exact ⟨htask, hwaiting.trans h, hcalls, hflushes⟩
    | sourceClosed | eventTaken | eventSent stream e => exact ⟨rfl, h, rfl, rfl⟩

/-! ## Whole runs of the task -/

theorem moves_append (zone : Zone) (r : TaskRun) (ms ms' : List Move) :
    r.moves zone (ms ++ ms') = (r.moves zone ms).moves zone ms' := by
  rw [moves, List.foldl_append]
  rfl

/-- **Each run of the task is a run of this kind**, with the calls and events of its steps. -/
theorem exists_moves (zone : Zone) (h : r.waiting = []) (ss : List CorrelatorTask.Step) :
    ∃ ms, (r.moves zone ms).waiting = [] ∧ (r.moves zone ms).task = r.task.steps zone ss ∧
      (r.moves zone ms).calls = r.calls ++ callsOver zone r.task ss ∧
      (r.moves zone ms).offered = r.offered ++ eventsOver zone r.task ss := by
  induction ss generalizing r with
  | nil => exact ⟨[], h, rfl, (List.append_nil _).symm, (List.append_nil _).symm⟩
  | cons s ss ih =>
    obtain ⟨r', hr', hdone, htask, hcalls, hoffered⟩ := (takesStep zone h s).settled
    obtain ⟨ms, hms, htasks, hallCalls, hallOffered⟩ := ih hdone
    refine ⟨(.step s :: List.replicate (eventsAt r.task s).length .offer) ++ ms, ?_⟩
    rw [moves_append, hr']
    refine ⟨hms, ?_, ?_, ?_⟩
    · rw [htasks, htask]
      rfl
    · rw [hallCalls, hcalls, htask, List.append_assoc]
      rfl
    · rw [hallOffered, hoffered, htask, List.append_assoc]
      rfl

end TaskRun

end RouterTelemetry.Dns
