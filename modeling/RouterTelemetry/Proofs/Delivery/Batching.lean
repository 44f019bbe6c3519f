import RouterTelemetry.Proofs.Delivery.History
/-!
# Batches keep the order of events

What becomes of the events that are offered to the inbox, in any run of the flusher with any calls side by
side: those that were accepted are, in their order, in the batches that the worker has handed over, in the
batch that it gathers, or in the inbox. Main statements:

* `Transition.events_after` : what one step does to the events;
* `InBounds.after` : the batch that the worker gathers is never full when a step is over;
* `batched` : what a whole run says about its events.
-/

namespace RouterTelemetry.Delivery

open Time (Instant)

/-! ## What the other calls leave alone -/

/-- What has to do with the events that come in: the inbox, the size of batches, and how many events found
no room. -/
structure Intake where
  inbox : Mailbox Event
  limit : Nat
  dropped : Nat

/-- What a flusher has to do with the events that come in. -/
def Flusher.intake (f : Flusher) : Intake where
  inbox := f.inbox
  limit := f.batchLimit
  dropped := f.stats.dropped.get .httpBatch

theorem Flusher.intake_counted (f : Flusher) (reply : Reply) :
    (f.counted reply).intake = f.intake := by
  rw [intake, counted, countReply]
  cases reply.result <;> rfl

/-- A batch on its way has nothing to do with the events that come in. -/
theorem Send.Moves.intake {m : Moment} {f : Flusher} {b : Send} {next : Send × Flusher}
    (h : b.Moves m f next) : next.2.intake = f.intake := by
  cases h with
  | accepted p ok => exact f.intake_counted m.reply
  | refused p e failed => exact f.intake_counted m.reply
  | _ => rfl

/-- A pass over the spool has nothing to do with the events that come in. -/
theorem Replay.Moves.intake {m : Moment} {f : Flusher} {r : Replay} {next : Replay × Flusher}
    (h : r.Moves m f next) : next.2.intake = f.intake := by
  cases h with
  | accepted b failed n live ok => exact f.intake_counted m.reply
  | again b failed n e live error more => exact f.intake_counted m.reply
  | gaveUp b failed n e live error last => exact f.intake_counted m.reply
  | _ => rfl

/-- When the worker sends or replays it gathers no events. -/
theorem Worker.intake_step (m : Moment) (f : Flusher) (w : Worker) :
    (w.step m f).2.intake = f.intake ∧ (w.step m f).1.batch = w.batch := by
  rcases w.activity_cases with ⟨b, a, hw, -, -⟩ | ⟨r, hw, -, -⟩ | ⟨hw, -, -⟩
  · rw [step_of_sending hw]
    exact ⟨(b.moves_step m f).intake, rfl⟩
  · rw [step_of_replaying hw]
    exact ⟨(r.moves_step m f).intake, rfl⟩
  · rw [step_of_idle hw]
    exact ⟨rfl, rfl⟩

/-! ## Events in one step -/

/-- How many events found no room. -/
def System.droppedEvents (s : System) : Nat :=
  s.flusher.stats.dropped.get .httpBatch

namespace Transition

/-- The event that the inbox accepts in a step. -/
def ingested? (t : Transition) : Option Event :=
  match t.step with
  | .ingest e => if (t.before.flusher.ingest e).1 then some e else none
  | _ => none

/-- The event that finds no room in a step. -/
def refused? (t : Transition) : Option Event :=
  match t.step with
  | .ingest e => if (t.before.flusher.ingest e).1 then none else some e
  | _ => none

/-- The events of the batch that the worker hands over in a step. -/
def batched? (t : Transition) : Option (List Event) :=
  match t.step with
  | .notice _ h => if t.handed?.isSome then some (t.before.worker.gathered t.before.flusher h) else none
  | _ => none

/-- The ways in which a step has to do with the events: one is offered, or the worker takes note of
something, or they are left alone. -/
theorem intake_cases (t : Transition) :
    (∃ e, t.step = .ingest e) ∨
      (∃ now h, t.step = .notice now h ∧ t.before.worker.activity = .choosing) ∨
      (t.ingested? = none ∧ t.refused? = none ∧ t.batched? = none ∧
        t.after.flusher.intake = t.before.flusher.intake ∧
        t.after.worker.batch = t.before.worker.batch ∧
        (t.before.worker.activity = .choosing → t.after.worker.activity = .choosing)) := by
  obtain ⟨s, a⟩ := t
  cases a with
  | ingest e => exact Or.inl ⟨e, rfl⟩
  | notice now h =>
    by_cases hw : s.worker.isChoosing = true
    · exact Or.inr (Or.inl ⟨now, h, rfl, Worker.isChoosing_iff.mp hw⟩)
    · -- a worker that does not wait takes note of nothing
      have hsame : s.step (.notice now h) = s := by rw [System.step, if_neg hw]
      refine Or.inr (Or.inr ⟨rfl, rfl, ?_, ?_⟩)
      · simp only [batched?, handed?, if_neg hw, Option.isSome_none, Bool.false_eq_true, if_false]
      · rw [after, hsame]
        exact ⟨rfl, rfl, id⟩
  | sendersClosed => exact Or.inr (Or.inr ⟨rfl, rfl, rfl, rfl, rfl, id⟩)
  | startPass => exact Or.inr (Or.inr ⟨rfl, rfl, rfl, rfl, rfl, id⟩)
  | startSend now events =>
    refine Or.inr (Or.inr ⟨rfl, rfl, rfl, ?_⟩)
    rw [after, System.step]
    split <;> exact ⟨rfl, rfl, id⟩
  | work m =>
    obtain ⟨hintake, hbatch⟩ := s.worker.intake_step m s.flusher
    refine Or.inr (Or.inr ⟨rfl, rfl, rfl, hintake, hbatch, fun hw => ?_⟩)
    rw [after, System.step, Worker.step_of_idle (Or.inl hw)]
    exact hw
  | send i m =>
    refine Or.inr (Or.inr ⟨rfl, rfl, rfl, ?_⟩)
    rw [after, System.step]
    split
    · next b hb => exact ⟨(b.moves_step m s.flusher).intake, rfl, id⟩
    · exact ⟨rfl, rfl, id⟩
  | pass i m =>
    refine Or.inr (Or.inr ⟨rfl, rfl, rfl, ?_⟩)
    rw [after, System.step]
    split
    · next r hr => exact ⟨(r.moves_step m s.flusher).intake, rfl, id⟩
    · exact ⟨rfl, rfl, id⟩

/-- What the worker does with the events it has gathered when it takes note of something: it hands them
over as a batch, or it has none and waits no longer, or it goes on gathering. -/
theorem notice_cases {t : Transition} {now : Instant} {h : Happening} (hstep : t.step = .notice now h)
    (hw : t.before.worker.activity = .choosing) :
    t.after.flusher = { t.before.flusher with inbox := Worker.remaining t.before.flusher h } ∧
      ((t.batched? = some (t.before.worker.gathered t.before.flusher h) ∧
          t.handed? = some
            (t.before.flusher.payload now (t.before.worker.gathered t.before.flusher h)) ∧
          t.before.worker.gathered t.before.flusher h ≠ [] ∧ t.after.worker.batch = []) ∨
        (t.batched? = none ∧ t.after.worker.batch = t.before.worker.gathered t.before.flusher h ∧
          (t.after.worker.batch = [] ∨ t.after.worker.activity = .choosing ∧
            (t.after.worker.batch = t.before.worker.batch ∨
              t.after.worker.batch.length < t.before.flusher.batchLimit)))) := by
  obtain ⟨s, a⟩ := t
  subst hstep
  change s.worker.activity = .choosing at hw
  have hwait : s.worker.isChoosing = true := Worker.isChoosing_iff.mpr hw
  have hafter : s.step (.notice now h) =
      { s with
        worker := (s.worker.notice s.flusher now h).1
        flusher := (s.worker.notice s.flusher now h).2 } := by
    rw [System.step, if_pos hwait]
  simp only [after, batched?, handed?, if_pos hwait, hafter, Worker.notice_snd]
  refine ⟨trivial, ?_⟩
  rcases s.worker.notice_cases s.flusher now h with
    ⟨hne, a, heq⟩ | ⟨hnil, heq | heq⟩ | ⟨hroom, heq⟩
  · rw [heq]
    exact Or.inl ⟨rfl, rfl, hne, rfl⟩
  · rw [heq]
    exact Or.inr ⟨rfl, hnil.symm, Or.inl rfl⟩
  · rw [heq]
    exact Or.inr ⟨rfl, hnil.symm, Or.inl rfl⟩
  · rw [heq]
    refine Or.inr ⟨?_, rfl, Or.inr ⟨hw, hroom⟩⟩
    simp only [Worker.send?, hw, Option.bind_none, Option.isSome_none, Bool.false_eq_true, if_false]

/-- No event is lost, duplicated or moved in a step. -/
theorem events_after (t : Transition) :
    t.before.worker.batch ++ t.before.flusher.inbox.queue ++ t.ingested?.toList =
      t.batched?.toList.flatten ++ (t.after.worker.batch ++ t.after.flusher.inbox.queue) := by
  rcases t.intake_cases with ⟨e, hstep⟩ | ⟨now, h, hstep, hw⟩ | ⟨hin, -, hout, hintake, hbatch, -⟩
  · obtain ⟨s, a⟩ := t
    subst hstep
    cases hroom : s.flusher.inbox.hasRoom with
    | true =>
      simp [ingested?, batched?, after, System.step, Flusher.ingest_of_hasRoom hroom]
    | false =>
      simp [ingested?, batched?, after, System.step, Flusher.ingest_of_not_hasRoom hroom]
  · have hsplit := t.before.worker.gathered_append_remaining t.before.flusher h
    have hin : t.ingested? = none := by rw [ingested?, hstep]
    obtain ⟨hflusher, ⟨hout, -, -, hbatch⟩ | ⟨hout, hbatch, -⟩⟩ := notice_cases hstep hw
    · simp [hin, hout, hbatch, hflusher, hsplit]
    · simp [hin, hout, hbatch, hflusher, hsplit]
  · have hinbox : t.after.flusher.inbox = t.before.flusher.inbox := congrArg Intake.inbox hintake
    simp [hin, hout, hbatch, hinbox]

/-- An event that finds no room is counted, and nothing else happens. -/
theorem refused?_spec {t : Transition} {e : Event} (h : t.refused? = some e) :
    t.after.worker = t.before.worker ∧ t.after.flusher.inbox = t.before.flusher.inbox ∧
      t.after.droppedEvents = t.before.droppedEvents + 1 := by
  obtain ⟨s, a⟩ := t
  cases a with
  | ingest e' =>
    cases hroom : s.flusher.inbox.hasRoom with
    | true => simp [refused?, Flusher.ingest_of_hasRoom hroom] at h
    | false =>
      rw [after, System.step, Flusher.ingest_of_not_hasRoom hroom]
      refine ⟨rfl, rfl, ?_⟩
      simp [System.droppedEvents, Stats.recordDrop]
  | _ => exact absurd h (by simp [refused?])

/-- Events are counted as dropped only when they find no room. -/
theorem droppedEvents_after (t : Transition) :
    t.after.droppedEvents = t.before.droppedEvents + t.refused?.toList.length := by
  rcases t.intake_cases with ⟨e, hstep⟩ | ⟨now, h, hstep, hw⟩ | ⟨-, href, -, hintake, -, -⟩
  · cases href : t.refused? with
    | some e' => exact (refused?_spec href).2.2
    | none =>
      obtain ⟨s, a⟩ := t
      subst hstep
      cases hroom : s.flusher.inbox.hasRoom with
      | true =>
        rw [after, System.step, Flusher.ingest_of_hasRoom hroom]
        rfl
      | false => simp [refused?, Flusher.ingest_of_not_hasRoom hroom] at href
  · have href : t.refused? = none := by rw [refused?, hstep]
    rw [System.droppedEvents, (notice_cases hstep hw).1, href]
    rfl
  · rw [href]
    exact congrArg Intake.dropped hintake

/-- The size of batches never changes. -/
theorem batchLimit_after (t : Transition) :
    t.after.flusher.batchLimit = t.before.flusher.batchLimit := by
  rcases t.intake_cases with ⟨e, hstep⟩ | ⟨now, h, hstep, hw⟩ | ⟨-, -, -, hintake, -, -⟩
  · obtain ⟨s, a⟩ := t
    subst hstep
    cases hroom : s.flusher.inbox.hasRoom with
    | true => simp [after, System.step, Flusher.ingest_of_hasRoom hroom, Flusher.batchLimit]
    | false => simp [after, System.step, Flusher.ingest_of_not_hasRoom hroom, Flusher.batchLimit]
  · rw [(notice_cases hstep hw).1]
    rfl
  · exact congrArg Intake.limit hintake

end Transition

/-! ## The size of batches -/

/-- The batch that the worker gathers is not full, and it is empty while the worker does anything but wait
for events. -/
structure InBounds (s : System) : Prop where
  room : s.worker.batch.length < s.flusher.batchLimit
  idle : s.worker.activity ≠ .choosing → s.worker.batch = []

theorem Flusher.batchLimit_pos (f : Flusher) : 0 < f.batchLimit :=
  Nat.lt_of_lt_of_le Nat.zero_lt_one (Nat.le_max_left 1 f.maxEvents)

/-- **The batch that the worker gathers is never full when a step is over.** -/
theorem InBounds.after {t : Transition} (h : InBounds t.before) : InBounds t.after := by
  have hpos := t.before.flusher.batchLimit_pos
  have hlimit := t.batchLimit_after
  rcases t.intake_cases with ⟨e, hstep⟩ | ⟨now, what, hstep, hw⟩ | ⟨-, -, -, -, hbatch, hwait⟩
  · obtain ⟨s, a⟩ := t
    subst hstep
    exact ⟨hlimit ▸ h.room, h.idle⟩
  · obtain ⟨-, ⟨-, -, -, hbatch⟩ | ⟨-, -, hbatch | ⟨hactivity, hroom⟩⟩⟩ :=
      Transition.notice_cases hstep hw
    · exact ⟨by rw [hbatch, hlimit]; exact hpos, fun _ => hbatch⟩
    · exact ⟨by rw [hbatch, hlimit]; exact hpos, fun _ => hbatch⟩
    · refine ⟨?_, fun hne => absurd hactivity hne⟩
      rw [hlimit]
      rcases hroom with hsame | hroom
      · rw [hsame]
        exact h.room
      · exact hroom
  · refine ⟨by rw [hbatch, hlimit]; exact h.room, fun hne => ?_⟩
    rw [hbatch]
    exact h.idle fun hw => hne (hwait hw)

/-- A batch that the worker hands over is not empty and not too long, and it is sent as it is. -/
theorem InBounds.batched? {t : Transition} (h : InBounds t.before) {es : List Event}
    (hes : t.batched? = some es) :
    es ≠ [] ∧ es.length ≤ t.before.flusher.batchLimit ∧
      ∃ now, t.handed? = some (t.before.flusher.payload now es) := by
  rcases t.intake_cases with ⟨e, hstep⟩ | ⟨now, what, hstep, hw⟩ | ⟨-, -, hnone, -⟩
  · rw [Transition.batched?, hstep] at hes
    exact absurd hes (by simp)
  · obtain ⟨-, ⟨hout, hhanded, hne, -⟩ | ⟨hout, -⟩⟩ := Transition.notice_cases hstep hw
    · obtain rfl := Option.some.inj (hout.symm.trans hes)
      refine ⟨hne, ?_, now, hhanded⟩
      -- there was room for one more event, and no more than one has come
      have hroom := h.room
      have hmore := t.before.worker.length_gathered_le t.before.flusher what
      omega
    · exact absurd (hout.symm.trans hes) (by simp)
  · exact absurd (hnone.symm.trans hes) (by simp)

/-! ## Whole runs -/

theorem InBounds.steps {s : System} (h : InBounds s) (ss : List Step) : InBounds (s.steps ss) := by
  induction ss generalizing s with
  | nil => exact h
  | cons a ss ih => exact ih (h.after (t := ⟨s, a⟩))

/-- No event is lost, duplicated or moved in a run. -/
theorem events_steps (s : System) (ss : List Step) :
    s.worker.batch ++ s.flusher.inbox.queue ++ (s.history ss).filterMap Transition.ingested? =
      ((s.history ss).filterMap Transition.batched?).flatten ++
        ((s.steps ss).worker.batch ++ (s.steps ss).flusher.inbox.queue) := by
  induction ss generalizing s with
  | nil => simp [System.history, System.steps]
  | cons a ss ih =>
    have hstep := (⟨s, a⟩ : Transition).events_after
    have hrest := ih (s.step a)
    rw [System.history, filterMap_cons_eq_append, filterMap_cons_eq_append, List.flatten_append,
      System.steps_cons]
    calc
      _ = s.worker.batch ++ s.flusher.inbox.queue ++ (⟨s, a⟩ : Transition).ingested?.toList
          ++ ((s.step a).history ss).filterMap Transition.ingested? := (List.append_assoc ..).symm
      _ = (⟨s, a⟩ : Transition).batched?.toList.flatten
          ++ ((s.step a).worker.batch ++ (s.step a).flusher.inbox.queue)
          ++ ((s.step a).history ss).filterMap Transition.ingested? := congrArg (· ++ _) hstep
      _ = _ := by rw [List.append_assoc, hrest, ← List.append_assoc]

theorem batchLimit_steps (s : System) (ss : List Step) :
    (s.steps ss).flusher.batchLimit = s.flusher.batchLimit := by
  induction ss generalizing s with
  | nil => rfl
  | cons a ss ih => exact (ih (s.step a)).trans (Transition.batchLimit_after ⟨s, a⟩)

/-- Where the events of a run are. -/
structure Batched (s : System) (ss : List Step) : Prop where
  /-- The events that were accepted, in their order: those that the worker has handed over, those that it
  gathers, and those that wait in the inbox. -/
  inOrder : (s.history ss).filterMap Transition.ingested? =
    ((s.history ss).filterMap Transition.batched?).flatten ++
      ((s.steps ss).worker.batch ++ (s.steps ss).flusher.inbox.queue)
  /-- A batch that is handed over is neither empty nor too long, and it is sent as it is. -/
  sized : ∀ t ∈ s.history ss, ∀ es, t.batched? = some es →
    es ≠ [] ∧ es.length ≤ max 1 s.flusher.maxEvents ∧
      ∃ now, t.handed? = some (t.before.flusher.payload now es)
  /-- The batch that the worker gathers is not full. -/
  room : (s.steps ss).worker.batch.length < max 1 s.flusher.maxEvents
  /-- When the worker has stopped nothing is left of its batch. -/
  stopped : (s.steps ss).worker.isStopped = true → (s.steps ss).worker.batch = []
  /-- An event that finds no room is counted once, and goes nowhere. -/
  refused : ∀ t ∈ s.history ss, ∀ e, t.refused? = some e →
    t.after.worker = t.before.worker ∧ t.after.flusher.inbox = t.before.flusher.inbox ∧
      t.after.droppedEvents = t.before.droppedEvents + 1
  /-- No event is counted as dropped but those that found no room. -/
  dropped : (s.steps ss).droppedEvents =
    s.droppedEvents + ((s.history ss).filterMap Transition.refused?).length

/-- What a run says about its events when none was there at its start. -/
theorem InBounds.toBatched {s : System} (h : InBounds s) (hbatch : s.worker.batch = [])
    (hqueue : s.flusher.inbox.queue = []) (ss : List Step) : Batched s ss where
  inOrder := by
    have hevents := events_steps s ss
    rwa [hbatch, hqueue] at hevents
  sized := by
    intro t ht es hes
    obtain ⟨prior, later, hsplit⟩ := List.append_of_mem ht
    obtain ⟨ss₁, ss₂, -, -, hbefore, -⟩ := System.history_eq_cons hsplit
    have hbounds : InBounds t.before := hbefore ▸ h.steps ss₁
    have hlimit : t.before.flusher.batchLimit = s.flusher.batchLimit :=
      hbefore ▸ batchLimit_steps s ss₁
    obtain ⟨hne, hlength, hsent⟩ := hbounds.batched? hes
    rw [hlimit] at hlength
    exact ⟨hne, hlength, hsent⟩
  room := by
    have hroom := (h.steps ss).room
    rwa [batchLimit_steps] at hroom
  stopped := by
    intro hstopped
    refine (h.steps ss).idle fun hw => ?_
    rw [Worker.isStopped, hw] at hstopped
    exact absurd hstopped (by simp)
  refused := fun t _ e => Transition.refused?_spec
  dropped := eq_add_length_filterMap Transition.droppedEvents_after s ss

/-- **Batches keep the order of events.** In any run from an empty inbox, whatever is done in whatever order,
no event that was accepted is lost, duplicated or moved. -/
theorem batched (f : Flusher) (depth : Nat) (ss : List Step) :
    Batched { flusher := { f with inbox := .empty depth } } ss := by
  have hstart : InBounds { flusher := { f with inbox := .empty depth } } :=
    ⟨Flusher.batchLimit_pos { f with inbox := .empty depth }, fun _ => rfl⟩
  exact hstart.toBatched rfl rfl ss

end RouterTelemetry.Delivery
