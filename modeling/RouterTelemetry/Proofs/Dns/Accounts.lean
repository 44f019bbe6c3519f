import RouterTelemetry.Proofs.Dns.BucketCounts
import RouterTelemetry.Proofs.Dns.TaskRuns
/-!
# The correlator at work accounts for every event

What the correlator does with the lines that it takes from one mailbox, and what becomes of the events that it
sends to another, in which other parts of the agent put events as well. Main statements:

* `Processes.move` and `Sends.move` : what one move preserves;
* `every_event_accounted_for` : what a whole run says about its lines and events.
-/

namespace RouterTelemetry.Dns

open Time
open CorrelatorTask (streamOf)

/-! ## Lines -/

/-- Two sessions differ in nothing but what the drops and gauges say. -/
structure Session.Agrees (s s' : Session) : Prop where
  correlator : s.correlator = s'.correlator
  counters : s.stats.counters = s'.stats.counters
  events : s.events = s'.events

/-- A flush counts the buckets that it gives out, and nothing else. -/
theorem foldl_incr_eq (bs : List DnsBucket) (stats : Stats) :
    bs.foldl (fun s _ => s.incr .dnsBucketsEmitted) stats =
      { stats with
        counters := bs.foldl (fun c _ => c.incr .dnsBucketsEmitted) stats.counters } := by
  induction bs generalizing stats with
  | nil => rfl
  | cons b bs ih =>
    rw [List.foldl_cons, ih]
    rfl

/-- Neither drops nor gauges matter to a call. -/
theorem Session.Agrees.call {s s' : Session} (h : s.Agrees s') (zone : Zone) (c : Call) :
    (s.call zone c).Agrees (s'.call zone c) := by
  obtain ⟨correlator, stats, events⟩ := s
  obtain ⟨correlator', stats', events'⟩ := s'
  obtain ⟨rfl, hcounters, rfl⟩ := h
  cases c with
  | line text now =>
    cases hline : (Call.line text now).line? zone with
    | none =>
      rw [Session.call_line_of_none hline, Session.call_line_of_none hline]
      refine ⟨rfl, ?_, rfl⟩
      simp only [Stats.incr]
      rw [hcounters]
    | some l =>
      rw [Session.call_line_of_some hline, Session.call_line_of_some hline]
      refine ⟨rfl, ?_, rfl⟩
      simp only [Stats.incr]
      rw [hcounters]
  | flush now =>
    refine ⟨rfl, ?_, rfl⟩
    simp only [Session.call, Correlator.flush, foldl_incr_eq]
    rw [hcounters]

/-- The line that is handed in in a call. -/
def Call.text? : Call → Option String
  | .line text _ => some text
  | .flush _ => none

namespace TaskRun

/-- The lines that the task has handed to its correlator. -/
def processed (r : TaskRun) : List String :=
  r.calls.filterMap Call.text?

/-- The correlator of the task, the counters, and the events that were given out. -/
def session (r : TaskRun) : Session :=
  ⟨r.task.correlator, r.task.stats, r.flushes.flatten⟩

end TaskRun

/-- What has become of the lines. -/
structure Processes (zone : Zone) (t : CorrelatorTask) (r : TaskRun) : Prop where
  /-- The correlator is as the calls of the task have left it, and has given out what they have returned. -/
  session : (Session.calls zone ⟨t.correlator, t.stats, []⟩ r.calls).Agrees r.session
  /-- The lines that have come are, in their order, those that were processed and those that wait. -/
  inOrder : r.task.running = true → r.arrived = r.processed ++ r.task.lines.queue
  /-- When the task has stopped, those that were processed are the first ones. -/
  processed : r.processed <+: r.arrived

namespace Processes

variable {zone : Zone} {t : CorrelatorTask} {r : TaskRun}

theorem start (zone : Zone) (t : CorrelatorTask) (handle : Mailbox.Handle) :
    Processes zone t (.start t handle) where
  session := ⟨rfl, rfl, rfl⟩
  inOrder := fun _ => rfl
  processed := List.nil_prefix

theorem send (h : Processes zone t r) (own : Bool) (handle : Mailbox.Handle) (e : Event) :
    Processes zone t (r.send own handle e) := by
  cases hroom : r.task.out.hasRoom with
  | true =>
    rw [TaskRun.send_of_hasRoom hroom]
    exact { h with }
  | false =>
    rw [TaskRun.send_of_not_hasRoom hroom]
    exact { h with session := ⟨h.session.correlator, h.session.counters, h.session.events⟩ }

theorem offer (h : Processes zone t r) : Processes zone t r.offer := by
  unfold TaskRun.offer
  split
  · exact h
  · next e rest _ =>
    have hrest : Processes zone t { r with waiting := rest } := { h with }
    exact hrest.send _ _ e

theorem lineSent (h : Processes zone t r) (line : String) :
    Processes zone t (r.lineSent zone line) := by
  cases hroom : r.task.lines.hasRoom with
  | true =>
    rw [TaskRun.lineSent_of_hasRoom zone hroom]
    refine ⟨{ h.session with }, fun hrunning => ?_, h.processed.trans (List.prefix_append _ _)⟩
    show r.arrived ++ [line] = r.processed ++ (r.task.lines.queue ++ [line])
    rw [h.inOrder hrunning, List.append_assoc]
  | false =>
    rw [TaskRun.lineSent_of_not_hasRoom zone hroom]
    exact { h with session := { h.session with } }

theorem stop (h : Processes zone t r) : Processes zone t { r with task := r.task.stop } where
  session := { h.session with }
  inOrder := fun hrunning => absurd hrunning Bool.false_ne_true
  processed := h.processed

/-- A line that is taken is handed to the correlator. -/
theorem lineTaken (h : Processes zone t r) (now : Instant) :
    Processes zone t (r.lineTaken zone now) := by
  rcases r.lineTaken_cases zone now with hsame | hstop | ⟨line, rest, hrunning, hqueue, htaken⟩
  · rw [hsame]
    exact h
  · rw [hstop]
    exact h.stop
  · have harrived := h.inOrder hrunning
    have hprocessed : (r.calls ++ [Call.line line now]).filterMap Call.text? =
        r.processed ++ [line] := by
      rw [List.filterMap_append]
      rfl
    rw [hqueue] at harrived
    rw [htaken]
    refine ⟨?_, fun _ => ?_, ?_⟩
    · show (Session.calls zone _ (r.calls ++ [Call.line line now])).Agrees _
      rw [Session.calls_concat]
      exact h.session.call zone (.line line now)
    · show r.arrived = (r.calls ++ [Call.line line now]).filterMap Call.text? ++ rest
      rw [hprocessed, harrived, List.append_assoc]
      rfl
    · show (r.calls ++ [Call.line line now]).filterMap Call.text? <+: r.arrived
      rw [hprocessed, harrived]
      exact ⟨rest, by rw [List.append_assoc]; rfl⟩

/-- A flush gives out what the correlator returns. -/
theorem flush (h : Processes zone t r) (now : Instant) : Processes zone t (r.flush now) := by
  rw [TaskRun.flush]
  split
  · have hprocessed : (r.calls ++ [Call.flush now]).filterMap Call.text? = r.processed := by
      rw [List.filterMap_append]
      exact List.append_nil _
    refine ⟨?_, fun hrunning => ?_, ?_⟩
    · have hflushed := h.session.call zone (.flush now)
      show (Session.calls zone _ (r.calls ++ [Call.flush now])).Agrees
        ⟨_, _, (r.flushes ++ [r.task.correlator.events now]).flatten⟩
      rw [Session.calls_concat, List.flatten_append, List.flatten_singleton]
      exact hflushed
    · exact (h.inOrder hrunning).trans (congrArg (· ++ _) hprocessed.symm)
    · show (r.calls ++ [Call.flush now]).filterMap Call.text? <+: r.arrived
      rw [hprocessed]
      exact h.processed
  · exact h

theorem eventTaken (h : Processes zone t r) : Processes zone t (r.eventTaken zone) := by
  rw [TaskRun.eventTaken, CorrelatorTask.step]
  split <;> exact { h with }

/-- **What one move preserves for the lines.** -/
theorem move (h : Processes zone t r) (m : Move) : Processes zone t (r.move zone m) := by
  cases m with
  | offer => exact h.offer
  | step s =>
    cases s with
    | lineSent line => exact h.lineSent line
    | sourceClosed => exact { h with }
    | eventTaken => exact h.eventTaken
    | eventSent stream e => exact h.send false ⟨stream⟩ e
    | lineTaken now =>
      rw [TaskRun.move]
      split
      · exact h.lineTaken now
      · exact h
    | tick now =>
      rw [TaskRun.move]
      split
      · exact h.flush now
      · exact h
    | cancelled =>
      rw [TaskRun.move]
      split
      · exact h.stop
      · exact h

end Processes

/-- The counter of flushed buckets grows with the buckets that are given out. -/
theorem emitted_call (zone : Zone) (s : Session) (c : Call) :
    (s.call zone c).stats.get .dnsBucketsEmitted + (bucketsOf s.events).length =
      s.stats.get .dnsBucketsEmitted + (bucketsOf (s.call zone c).events).length := by
  cases c with
  | line text now =>
    rw [get_stats_line, events_line]
    simp
  | flush now =>
    have hevents : (s.call zone (.flush now)).events = s.events ++ s.correlator.events now := rfl
    have hstats : (s.call zone (.flush now)).stats =
        s.correlator.buckets.foldl (fun s _ => s.incr .dnsBucketsEmitted) s.stats := rfl
    rw [hevents, hstats, get_foldl_incr, if_pos rfl, bucketsOf_append, bucketsOf_events,
      List.length_append]
    omega

theorem emitted_calls (zone : Zone) (s : Session) (cs : List Call) :
    (s.calls zone cs).stats.get .dnsBucketsEmitted + (bucketsOf s.events).length =
      s.stats.get .dnsBucketsEmitted + (bucketsOf (s.calls zone cs).events).length := by
  induction cs generalizing s with
  | nil => rfl
  | cons c cs ih =>
    have hcall := emitted_call zone s c
    have hrest := ih (s.call zone c)
    rw [Session.calls, List.foldl_cons]
    rw [Session.calls] at hrest
    omega

theorem Processes.emitted {zone : Zone} {t : CorrelatorTask} {r : TaskRun} (h : Processes zone t r) :
    r.task.stats.get .dnsBucketsEmitted =
      t.stats.get .dnsBucketsEmitted + (bucketsOf r.flushes.flatten).length := by
  obtain ⟨-, hcounters, hevents⟩ := h.session
  have hemitted := emitted_calls zone ⟨t.correlator, t.stats, []⟩ r.calls
  rw [Stats.get, hcounters, hevents] at hemitted
  exact hemitted

/-! ## Events -/

theorem streamOf_eq_or (e : Event) : streamOf e = .dnsBucket ∨ streamOf e = .hostIdentity := by
  rw [streamOf]
  split
  · exact Or.inl rfl
  · exact Or.inr rfl

theorem streamOf_eq_dnsBucket_iff (e : Event) :
    streamOf e = .dnsBucket ↔ (bucketOf? e).isSome = true := by
  obtain ⟨time, payload⟩ := e
  cases payload <;> simp [streamOf, bucketOf?]

theorem streamOf_eq_hostIdentity_iff {e : Event}
    (h : (bucketOf? e).isSome = true ∨ (identityOf? e).isSome = true) :
    streamOf e = .hostIdentity ↔ (identityOf? e).isSome = true := by
  obtain ⟨time, payload⟩ := e
  cases payload <;> simp_all [streamOf, bucketOf?, identityOf?]

namespace TaskRun

/-- The events that the outbound mailbox has accepted. -/
def accepted (r : TaskRun) : List Event :=
  (r.sendings.filter Sending.accepted).map Sending.event

/-- How many events of some kind the outbound mailbox has accepted from the task. -/
def ownAccepted (r : TaskRun) (kind : Event → Bool) : Nat :=
  r.sendings.countP fun s => s.accepted && s.own && kind s.event

/-- How many events the outbound mailbox has not accepted that the task, or that others, sent under a stream. -/
def drops (r : TaskRun) (own : Bool) (stream : Stream) : Nat :=
  r.sendings.countP fun s => !s.accepted && s.own == own && s.stream == stream

/-- An event that is accepted is not dropped. -/
theorem drops_of_accepted {r r' : TaskRun} {own : Bool} {stream : Stream} {e : Event}
    (h : r'.sendings = r.sendings ++ [⟨own, stream, e, true⟩]) (own' : Bool) (other : Stream) :
    r'.drops own' other = r.drops own' other := by
  rw [drops, h, List.countP_append]
  rfl

/-- An event that is not accepted is one more drop, of the task or of others. -/
theorem drops_of_refused {r r' : TaskRun} {own : Bool} {stream : Stream} {e : Event}
    (h : r'.sendings = r.sendings ++ [⟨own, stream, e, false⟩]) (other : Stream) :
    r'.drops true other + r'.drops false other =
      r.drops true other + r.drops false other + [stream].count other := by
  rw [drops, drops, h, List.countP_append, List.countP_append, List.countP_singleton,
    List.countP_singleton, List.count_singleton, ← drops, ← drops]
  cases own <;> simp <;> omega

end TaskRun

/-- What the outbound mailbox and the counters say about the events that were sent. -/
structure Posted (t : CorrelatorTask) (r : TaskRun) : Prop where
  /-- The events that were accepted are, in their order, those that were taken and those that wait. -/
  outbound : t.out.queue ++ r.accepted = r.received ++ r.task.out.queue
  /-- What was not accepted is counted, and so are the lines that found no room. -/
  dropped : ∀ stream, r.task.stats.dropped.get stream =
    t.stats.dropped.get stream + (r.drops true stream + r.drops false stream)
      + if stream = .dnsLines then r.lostLines else 0

/-- What has become of the events. -/
structure Sends (t : CorrelatorTask) (r : TaskRun) : Prop extends Posted t r where
  /-- The events that were given out are, in their order, those that were sent and those that wait. -/
  offered : r.flushes.flatten = r.offered ++ r.waiting
  ordered : ∀ es ∈ r.flushes, BucketsFirst es
  /-- What the task sends counts under its kind. -/
  streams : ∀ s ∈ r.sendings, s.own = true → s.stream = streamOf s.event

namespace Posted

variable {t : CorrelatorTask} {r : TaskRun}

theorem send (h : Posted t r) (own : Bool) (handle : Mailbox.Handle) (e : Event) :
    Posted t (r.send own handle e) := by
  cases hroom : r.task.out.hasRoom with
  | true =>
    have hsent := TaskRun.send_of_hasRoom hroom own handle e
    have hsendings := congrArg TaskRun.sendings hsent
    refine ⟨?_, fun stream => ?_⟩
    · rw [TaskRun.accepted, hsendings, hsent, List.filter_append, List.map_append,
        ← List.append_assoc, ← TaskRun.accepted, h.outbound, List.append_assoc]
      rfl
    · rw [TaskRun.drops_of_accepted hsendings, TaskRun.drops_of_accepted hsendings, hsent]
      exact h.dropped stream
  | false =>
    have hsent := TaskRun.send_of_not_hasRoom hroom own handle e
    have hsendings := congrArg TaskRun.sendings hsent
    refine ⟨?_, fun stream => ?_⟩
    · rw [TaskRun.accepted, hsendings, hsent, List.filter_append, List.map_append,
        ← List.append_assoc, ← TaskRun.accepted, h.outbound]
      exact List.append_nil _
    · have hlost : (r.send own handle e).lostLines = r.lostLines := rfl
      rw [TaskRun.drops_of_refused hsendings, hlost, hsent, Mailbox.dropped_recordDrop, h.dropped]
      omega

theorem lineSent (h : Posted t r) (zone : Zone) (line : String) :
    Posted t (r.lineSent zone line) := by
  cases hroom : r.task.lines.hasRoom with
  | true =>
    rw [TaskRun.lineSent_of_hasRoom zone hroom]
    exact { h with }
  | false =>
    rw [TaskRun.lineSent_of_not_hasRoom zone hroom]
    refine ⟨h.outbound, fun stream => ?_⟩
    show (r.task.stats.recordDrop .dnsLines).dropped.get stream =
      t.stats.dropped.get stream + (r.drops true stream + r.drops false stream)
        + if stream = .dnsLines then r.lostLines + 1 else 0
    rw [Mailbox.dropped_recordDrop, h.dropped]
    by_cases hstream : stream = .dnsLines
    · subst hstream
      rw [if_pos rfl, if_pos rfl, List.count_singleton_self, Nat.add_assoc]
    · rw [if_neg hstream, if_neg hstream, List.count_singleton,
        if_neg (by simpa using Ne.symm hstream)]

theorem lineTaken (h : Posted t r) (zone : Zone) (now : Instant) :
    Posted t (r.lineTaken zone now) := by
  rcases r.lineTaken_cases zone now with hsame | hstop | ⟨line, rest, -, -, htaken⟩
  · rw [hsame]
    exact h
  · rw [hstop]
    exact { h with }
  · rw [htaken]
    refine ⟨h.outbound, fun stream => ?_⟩
    have hdropped : (r.task.correlator.processLine zone r.task.stats line now).2.dropped =
        r.task.stats.dropped := by
      rw [Correlator.processLine]
      split <;> rfl
    show (r.task.correlator.processLine zone r.task.stats line now).2.dropped.get stream = _
    rw [hdropped]
    exact h.dropped stream

theorem flush (h : Posted t r) (now : Instant) : Posted t (r.flush now) := by
  rw [TaskRun.flush]
  split
  · refine ⟨h.outbound, fun stream => ?_⟩
    show (r.task.correlator.buckets.foldl (fun s _ => s.incr .dnsBucketsEmitted)
      r.task.stats).dropped.get stream = _
    rw [foldl_incr_eq]
    exact h.dropped stream
  · exact h

theorem eventTaken (h : Posted t r) (zone : Zone) : Posted t (r.eventTaken zone) := by
  have houtbound := h.outbound
  rw [TaskRun.eventTaken, CorrelatorTask.step, Mailbox.take?]
  cases hqueue : r.task.out.queue with
  | nil =>
    refine ⟨?_, h.dropped⟩
    show t.out.queue ++ r.accepted = r.received ++ [] ++ r.task.out.queue
    rw [List.append_nil]
    exact houtbound
  | cons e rest =>
    refine ⟨?_, h.dropped⟩
    show t.out.queue ++ r.accepted = r.received ++ [e] ++ rest
    rw [houtbound, hqueue, List.append_assoc]
    rfl

end Posted

namespace Sends

variable {zone : Zone} {t : CorrelatorTask} {r : TaskRun}

theorem start (t : CorrelatorTask) (handle : Mailbox.Handle) : Sends t (.start t handle) where
  outbound := List.append_nil _
  dropped := fun stream => by
    show t.stats.dropped.get stream =
      t.stats.dropped.get stream + (0 + 0) + if stream = .dnsLines then 0 else 0
    rw [ite_self]
    rfl
  offered := rfl
  ordered := fun _ hes => absurd hes List.not_mem_nil
  streams := fun _ hs => absurd hs List.not_mem_nil

/-- The task sends the events of a flush in their order, each under its kind. -/
theorem offer (h : Sends t r) : Sends t r.offer := by
  rw [TaskRun.offer]
  split
  · exact h
  · next e rest hwaiting =>
    have hposted : Posted t { r with waiting := rest } := { h with }
    have hsendings := { r with waiting := rest }.sendings_send true (r.handle.relabel (streamOf e)) e
    refine { hposted.send _ _ e with offered := ?_, ordered := h.ordered, streams := ?_ }
    · show r.flushes.flatten =
        ((({ r with waiting := rest }.send true _ e).sendings).filter Sending.own).map
          Sending.event ++ rest
      rw [h.offered, hwaiting, hsendings, List.filter_append, List.map_append, List.append_assoc]
      rfl
    · intro s hs hown
      rw [hsendings] at hs
      rcases List.mem_append.mp hs with hbefore | hnew
      · exact h.streams s hbefore hown
      · rw [List.mem_singleton.mp hnew]
        rfl

/-- What others send is none of the events of the task. -/
theorem eventSent (h : Sends t r) (handle : Mailbox.Handle) (e : Event) :
    Sends t (r.send false handle e) := by
  have hsendings := r.sendings_send false handle e
  refine { h.toPosted.send _ _ e with offered := ?_, ordered := h.ordered, streams := ?_ }
  · rw [TaskRun.offered_send]
    exact h.offered
  · intro s hs hown
    rw [hsendings] at hs
    rcases List.mem_append.mp hs with hbefore | hnew
    · exact h.streams s hbefore hown
    · rw [List.mem_singleton.mp hnew] at hown
      exact absurd hown Bool.false_ne_true

theorem lineSent (h : Sends t r) (zone : Zone) (line : String) :
    Sends t (r.lineSent zone line) := by
  have hposted := h.toPosted.lineSent zone line
  cases hroom : r.task.lines.hasRoom with
  | true =>
    rw [TaskRun.lineSent_of_hasRoom zone hroom] at hposted ⊢
    exact { hposted, h with }
  | false =>
    rw [TaskRun.lineSent_of_not_hasRoom zone hroom] at hposted ⊢
    exact { hposted, h with }

theorem lineTaken (h : Sends t r) (zone : Zone) (now : Instant) :
    Sends t (r.lineTaken zone now) :=
  { h.toPosted.lineTaken zone now with
    offered := h.offered
    ordered := h.ordered
    streams := h.streams }

/-- When nothing waits, the events of the next flush are the next ones to send. -/
theorem flush (h : Sends t r) (hwaiting : r.waiting = []) (now : Instant) :
    Sends t (r.flush now) := by
  have hposted := h.toPosted.flush now
  rw [TaskRun.flush] at hposted ⊢
  split at hposted
  · next hrunning =>
    rw [if_pos hrunning]
    refine { hposted with offered := ?_, ordered := fun es hes => ?_, streams := h.streams }
    · show (r.flushes ++ [r.task.correlator.events now]).flatten =
        r.offered ++ r.task.correlator.events now
      rw [List.flatten_append, List.flatten_singleton, h.offered, hwaiting, List.append_nil]
    · rcases List.mem_append.mp hes with hbefore | hnew
      · exact h.ordered es hbefore
      · rw [List.mem_singleton.mp hnew]
        exact bucketsFirst_events _ now
  · next hstopped =>
    rw [if_neg hstopped]
    exact h

theorem eventTaken (h : Sends t r) (zone : Zone) : Sends t (r.eventTaken zone) :=
  { h.toPosted.eventTaken zone with
    offered := h.offered
    ordered := h.ordered
    streams := h.streams }

/-- **What one move preserves for the events.** -/
theorem move (h : Sends t r) (zone : Zone) (m : Move) : Sends t (r.move zone m) := by
  cases m with
  | offer => exact h.offer
  | step s =>
    cases s with
    | lineSent line => exact h.lineSent zone line
    | sourceClosed => exact { h with }
    | eventTaken => exact h.eventTaken zone
    | eventSent stream e => exact h.eventSent ⟨stream⟩ e
    | lineTaken now =>
      rw [TaskRun.move]
      split
      · exact h.lineTaken zone now
      · exact h
    | tick now =>
      rw [TaskRun.move]
      split
      · next hwaiting => exact h.flush (List.isEmpty_iff.mp hwaiting) now
      · exact h
    | cancelled =>
      rw [TaskRun.move]
      split
      · exact { h with }
      · exact h

/-- What the task has sent of one kind is what was accepted of it and what was dropped under its stream. -/
theorem countP_offered (h : Sends t r) {kind : Event → Bool} {stream : Stream}
    (hkind : ∀ e ∈ r.offered, streamOf e = stream ↔ kind e = true) :
    r.offered.countP kind = r.ownAccepted kind + r.drops true stream := by
  rw [TaskRun.offered, List.countP_map, List.countP_filter,
    List.countP_eq_countP_filter_add _ _ Sending.accepted, List.countP_filter, List.countP_filter,
    TaskRun.ownAccepted, TaskRun.drops]
  refine congrArg₂ _ (List.countP_congr fun s _ => ?_) (List.countP_congr fun s hs => ?_)
  · simp only [Function.comp_apply, Bool.and_eq_true]
    tauto
  · have hstream : s.own = true → (s.stream = stream ↔ kind s.event = true) := fun hown => by
      rw [h.streams s hs hown]
      exact hkind _ (List.mem_map_of_mem (List.mem_filter.mpr ⟨hs, hown⟩))
    simp only [Function.comp_apply, Bool.and_eq_true, beq_iff_eq]
    tauto

/-- Each event that the task sends carries a bucket or an identity. -/
theorem kind_of_offered (h : Sends t r) {e : Event} (he : e ∈ r.offered) :
    (bucketOf? e).isSome = true ∨ (identityOf? e).isSome = true := by
  have hflushed : e ∈ r.flushes.flatten := by
    rw [h.offered]
    exact List.mem_append_left _ he
  obtain ⟨es, hes, hmem⟩ := List.mem_flatten.mp hflushed
  obtain ⟨bs, is, rfl, hbs, his⟩ := h.ordered es hes
  exact (List.mem_append.mp hmem).imp (hbs e) (his e)

theorem buckets_eq (h : Sends t r) :
    (bucketsOf r.flushes.flatten).length =
      r.ownAccepted (fun e => (bucketOf? e).isSome) + r.drops true .dnsBucket
        + (bucketsOf r.waiting).length := by
  rw [h.offered, bucketsOf_append, List.length_append, bucketsOf, List.length_filterMap_eq_countP,
    h.countP_offered fun e _ => streamOf_eq_dnsBucket_iff e]

theorem identities_eq (h : Sends t r) :
    (identitiesOf r.flushes.flatten).length =
      r.ownAccepted (fun e => (identityOf? e).isSome) + r.drops true .hostIdentity
        + (identitiesOf r.waiting).length := by
  rw [h.offered, identitiesOf, List.filterMap_append, List.length_append,
    List.length_filterMap_eq_countP,
    h.countP_offered fun e he => streamOf_eq_hostIdentity_iff (h.kind_of_offered he)]
  rfl

/-- The label of the mailbox that the task was given does not matter. -/
theorem drops_eq_zero (h : Sends t r) {stream : Stream} (hbucket : stream ≠ .dnsBucket)
    (hidentity : stream ≠ .hostIdentity) : r.drops true stream = 0 := by
  refine List.countP_eq_zero.mpr fun s hs hdrop => ?_
  simp only [Bool.and_eq_true, beq_iff_eq] at hdrop
  obtain ⟨⟨-, hown⟩, hstream⟩ := hdrop
  rw [h.streams s hs hown] at hstream
  rcases streamOf_eq_or s.event with hkind | hkind
  · exact hbucket (hstream.symm.trans hkind)
  · exact hidentity (hstream.symm.trans hkind)

end Sends

/-! ## Whole runs -/

theorem Processes.moves {zone : Zone} {t : CorrelatorTask} {r : TaskRun} (h : Processes zone t r)
    (ms : List Move) : Processes zone t (r.moves zone ms) := by
  induction ms generalizing r with
  | nil => exact h
  | cons m ms ih => exact ih (h.move m)

theorem Sends.moves {t : CorrelatorTask} {r : TaskRun} (h : Sends t r) (zone : Zone)
    (ms : List Move) : Sends t (r.moves zone ms) := by
  induction ms generalizing r with
  | nil => exact h
  | cons m ms ih => exact ih (h.move zone m)

/-- Every line and every event is accounted for. Between two branches of the task no event waits. -/
structure AccountedFor (zone : Zone) (t : CorrelatorTask) (r : TaskRun) : Prop
    extends Processes zone t r, Sends t r where
  /-- The buckets that were flushed were accepted or dropped, but for those that wait. -/
  buckets : r.task.stats.get .dnsBucketsEmitted =
    t.stats.get .dnsBucketsEmitted + (r.ownAccepted (fun e => (bucketOf? e).isSome)
      + r.drops true .dnsBucket + (bucketsOf r.waiting).length)
  /-- So were the identities. -/
  identities : (identitiesOf r.flushes.flatten).length =
    r.ownAccepted (fun e => (identityOf? e).isSome) + r.drops true .hostIdentity
      + (identitiesOf r.waiting).length
  /-- The task counts no drop under any other stream. -/
  others : ∀ stream, stream ≠ .dnsBucket → stream ≠ .hostIdentity → r.drops true stream = 0
  /-- Between two branches the next step is that of the task at work, with its calls and its events. -/
  takes : r.waiting = [] → ∀ s, TakesStep zone r s
  /-- While events wait they are sent one after the other, and nothing else is done. -/
  pauses : ∀ e rest, r.waiting = e :: rest → Pauses zone r e rest

/-- **Every line and every event is accounted for**, in whatever order things happen and whatever label the
mailbox carries that the task was given. And whatever steps the task takes at work, there is a run in which it is called
for the same and sends the same. -/
theorem every_event_accounted_for (zone : Zone) (t : CorrelatorTask) (handle : Mailbox.Handle) :
    (∀ ms : List Move, AccountedFor zone t ((TaskRun.start t handle).moves zone ms)) ∧
    ∀ ss : List CorrelatorTask.Step, ∃ ms, ∃ r, (TaskRun.start t handle).moves zone ms = r ∧ r.waiting = [] ∧
      r.task = t.steps zone ss ∧ r.calls = callsOver zone t ss ∧ r.offered = eventsOver zone t ss := by
  constructor
  · intro ms
    have hprocesses := (Processes.start zone t handle).moves ms
    have hsends := (Sends.start t handle).moves zone ms
    exact
      { hprocesses, hsends with
        buckets := by rw [hprocesses.emitted, hsends.buckets_eq]
        identities := hsends.identities_eq
        others := fun _ hbucket hidentity => hsends.drops_eq_zero hbucket hidentity
        takes := TaskRun.takesStep zone
        pauses := fun _ _ => TaskRun.pauses zone }
  · intro ss
    obtain ⟨ms, hwaiting, htask, hcalls, hoffered⟩ := (TaskRun.start t handle).exists_moves zone rfl ss
    exact ⟨ms, _, rfl, hwaiting, htask, hcalls, hoffered⟩

/-- A task with two buckets and a client, and room for one event. -/
def crowdedTask : CorrelatorTask where
  correlator := {
    hash := id
    capacity := 1
    buckets := [⟨⟨0, 0⟩, "10.0.0.5", "A", "a", 1, 0⟩, ⟨⟨0, 0⟩, "10.0.0.5", "AAAA", "b", 1, 0⟩]
    clients := [("10.0.0.5", ⟨⟨0, 0⟩, .empty 1⟩)] }
  lines := .empty 1
  out := .empty 1

/-- A flush of that task in which the consumer takes the first event only after the second one is sent: that one is
dropped. The handle that the task was given counts under a stream of its own, to which nothing is put down. -/
theorem second_bucket_dropped :
    let start := TaskRun.start crowdedTask ⟨.heartbeat⟩
    let flushing := start.moves .utc [.step (.tick ⟨60, 0⟩)]
    let r := start.moves .utc [.step (.tick ⟨60, 0⟩), .offer, .offer, .step .eventTaken, .offer]
    (start.waiting = [] ∧ TakesStep .utc start (.tick ⟨60, 0⟩)) ∧
      (∃ e rest, flushing.waiting = e :: rest ∧ Pauses .utc flushing e rest) ∧
      (AccountedFor .utc crowdedTask r ∧ r.waiting = [] ∧ r.task.stats.get .dnsBucketsEmitted = 2 ∧
        r.ownAccepted (fun e => (bucketOf? e).isSome) = 1 ∧ r.drops true .dnsBucket = 1 ∧
        r.drops true .heartbeat = 0) ∧
      ∃ ms, ∃ r', start.moves .utc ms = r' ∧ r'.task = crowdedTask.steps .utc [.tick ⟨60, 0⟩] := by
  intro start flushing r
  obtain ⟨haccounted, hruns⟩ := every_event_accounted_for .utc crowdedTask ⟨.heartbeat⟩
  have hr := haccounted [.step (.tick ⟨60, 0⟩), .offer, .offer, .step .eventTaken, .offer]
  refine ⟨⟨rfl, (haccounted []).takes rfl _⟩, ⟨_, _, rfl, (haccounted [.step (.tick ⟨60, 0⟩)]).pauses _ _ rfl⟩,
    ⟨hr, rfl, rfl, rfl, rfl, hr.others .heartbeat (by decide) (by decide)⟩, ?_⟩
  obtain ⟨ms, r', hr', -, htask, -⟩ := hruns [.tick ⟨60, 0⟩]
  exact ⟨ms, r', hr', htask⟩

end RouterTelemetry.Dns
