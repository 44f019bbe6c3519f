import RouterTelemetry.Delivery.System
/-!
# Single steps of the flusher

What the parts of the flusher do in one step: a batch that is on its way, a pass over the spool, the worker
and the inbox. Main statements, each of which covers all that can happen:

* `Send.moves_step` : the steps of a batch;
* `Replay.moves_step` : the steps of a pass over the spool;
* `Worker.notice_cases` : what the worker does when it takes note of something.
-/

namespace RouterTelemetry.Delivery

open Text (Bytes)
open Time (Instant)
open Spool (StoredBatch)

/-! ## Batches -/

namespace Send

/-- The payload of a batch that is on its way. -/
def payload? : Send → Option Bytes
  | .posting p => some p
  | .storing p => some p
  | .done _ => none

/-- What the steps of a batch can do. -/
inductive Moves (m : Moment) (f : Flusher) : Send → Send × Flusher → Prop
  | accepted (p : Bytes) (ok : m.reply.result = .ok ()) :
      Moves m f (.posting p) (.done .delivered, f.counted m.reply)
  | refused (p : Bytes) (e : Failure) (failed : m.reply.result = .error e) :
      Moves m f (.posting p) (.storing p, f.counted m.reply)
  | spooled (p : Bytes) (ok : (f.spool.enqueue m.clock.nanos p m.disk).1 = .ok ()) :
      Moves m f (.storing p)
        (.done .spooled, { f with spool := (f.spool.enqueue m.clock.nanos p m.disk).2 })
  | rejected (p : Bytes) (e : Spool.Error)
      (failed : (f.spool.enqueue m.clock.nanos p m.disk).1 = .error e) :
      Moves m f (.storing p)
        (.done .rejected, { f with
          spool := (f.spool.enqueue m.clock.nanos p m.disk).2
          stats := f.stats.incr .spoolDroppedBatches })
  | done (fate : Fate) : Moves m f (.done fate) (.done fate, f)

theorem moves_step (m : Moment) (f : Flusher) (b : Send) : b.Moves m f (b.step m f) := by
  cases b with
  | posting p =>
    rw [step]
    cases hr : m.reply.result with
    | ok _ => exact .accepted p hr
    | error e => exact .refused p e hr
  | storing p =>
    rw [step]
    rcases hq : f.spool.enqueue m.clock.nanos p m.disk with ⟨e | _, spool⟩
    · have hmove := Moves.rejected (m := m) (f := f) p e (by rw [hq])
      rwa [hq] at hmove
    · have hmove := Moves.spooled (m := m) (f := f) p (by rw [hq])
      rwa [hq] at hmove
  | done fate => exact .done fate

namespace Moves

variable {m : Moment} {f : Flusher} {b : Send} {next : Send × Flusher}

/-- A batch keeps its payload until it is at its end. -/
theorem payload?_eq (h : b.Moves m f next) :
    next.1.payload? = if next.1.isDone then none else b.payload? := by
  cases h <;> rfl

/-- The payload of a batch before a step is the one that has ended or the one that is left. -/
theorem toList_payload? (h : b.Moves m f next) :
    b.payload?.toList =
      (if next.1.isDone then b.payload? else none).toList ++ next.1.payload?.toList := by
  rw [h.payload?_eq]
  by_cases hdone : next.1.isDone = true
  · rw [if_pos hdone, if_pos hdone, Option.toList_none, List.append_nil]
  · rw [if_neg hdone, if_neg hdone, Option.toList_none, List.nil_append]

/-- Only a batch that is to be stored changes the spool. -/
theorem spool_cases (h : b.Moves m f next) :
    (∃ p, b = .storing p ∧ next.2.spool = (f.spool.enqueue m.clock.nanos p m.disk).2) ∨
      next.2.spool = f.spool := by
  cases h with
  | accepted p ok => exact Or.inr rfl
  | refused p e failed => exact Or.inr rfl
  | spooled p ok => exact Or.inl ⟨p, rfl, rfl⟩
  | rejected p e failed => exact Or.inl ⟨p, rfl, rfl⟩
  | done fate => exact Or.inr rfl

/-- A batch that is to be stored is, whether the spool takes it or not, put to the spool. -/
theorem spool_of_storing {p : Bytes} (h : (storing p).Moves m f next) :
    next.2.spool = (f.spool.enqueue m.clock.nanos p m.disk).2 := by
  cases h with
  | spooled p ok => rfl
  | rejected p e failed => rfl

end Moves

end Send

/-! ## Passes over the spool -/

namespace Replay

/-- What the steps of a pass can do. -/
inductive Moves (m : Moment) (f : Flusher) : Replay → Replay × Flusher → Prop
  | refused (busy : f.replaying = true) : Moves m f .starting (.over 0, f)
  | started (free : f.replaying = false) :
      Moves m f .starting (.looking 0, { f with replaying := true })
  | found (n : Nat) (b : StoredBatch) (live : m.cancelled = false)
      (head : f.spool.dequeueOldest m.disk = .ok b) : Moves m f (.looking n) (.sending b 0 n, f)
  /-- There is no batch, or it cannot be read. -/
  | unfound (n : Nat) (e : Spool.Error) (live : m.cancelled = false)
      (failed : f.spool.dequeueOldest m.disk = .error e) : Moves m f (.looking n) (leave n f)
  | accepted (b : StoredBatch) (failed n : Nat) (live : m.cancelled = false)
      (ok : m.reply.result = .ok ()) :
      Moves m f (.sending b failed n) (.removing b.name n, f.counted m.reply)
  | again (b : StoredBatch) (failed n : Nat) (e : Failure) (live : m.cancelled = false)
      (error : m.reply.result = .error e) (more : failed + 1 < Shipment.limit f.attempts) :
      Moves m f (.sending b failed n) (.sending b (failed + 1) n, f.counted m.reply)
  | gaveUp (b : StoredBatch) (failed n : Nat) (e : Failure) (live : m.cancelled = false)
      (error : m.reply.result = .error e) (last : Shipment.limit f.attempts ≤ failed + 1) :
      Moves m f (.sending b failed n) (leave n (f.counted m.reply))
  | removed (name : Spool.Name) (n : Nat) (ok : (f.spool.ack name m.disk).1 = .ok ()) :
      Moves m f (.removing name n)
        (.looking (n + 1), { f with spool := (f.spool.ack name m.disk).2 })
  | stuck (name : Spool.Name) (n : Nat) (e : Spool.Error)
      (failed : (f.spool.ack name m.disk).1 = .error e) :
      Moves m f (.removing name n) (leave n { f with spool := (f.spool.ack name m.disk).2 })
  | cancelledLooking (n : Nat) (seen : m.cancelled = true) : Moves m f (.looking n) (leave n f)
  | cancelledSending (b : StoredBatch) (failed n : Nat) (seen : m.cancelled = true) :
      Moves m f (.sending b failed n) (leave n f)
  | ended (n : Nat) : Moves m f (.over n) (.over n, f)

theorem moves_step (m : Moment) (f : Flusher) (r : Replay) : r.Moves m f (r.step m f) := by
  cases r with
  | starting =>
    rw [step]
    cases hbusy : f.replaying with
    | true => exact .refused hbusy
    | false => exact .started hbusy
  | looking n =>
    rw [step]
    cases hc : m.cancelled with
    | true => exact .cancelledLooking n hc
    | false =>
      cases hd : f.spool.dequeueOldest m.disk with
      | ok b => exact .found n b hc hd
      | error e => exact .unfound n e hc hd
  | sending b failed n =>
    rw [step, Shipment.step]
    cases hc : m.cancelled with
    | true => exact .cancelledSending b failed n hc
    | false =>
      cases hr : m.reply.result with
      | ok _ => exact .accepted b failed n hc hr
      | error e =>
        have hlimit : (f.counted m.reply).attempts = f.attempts := rfl
        by_cases hmore : failed + 1 < Shipment.limit f.attempts
        · simp only [Bool.false_eq_true, if_false, hlimit, if_pos hmore]
          exact .again b failed n e hc hr hmore
        · simp only [Bool.false_eq_true, if_false, hlimit, if_neg hmore]
          exact .gaveUp b failed n e hc hr (by omega)
  | removing name n =>
    rw [step]
    rcases hack : f.spool.ack name m.disk with ⟨e | _, spool⟩
    · have hmove := Moves.stuck (m := m) (f := f) name n e (by rw [hack])
      rwa [hack] at hmove
    · have hmove := Moves.removed (m := m) (f := f) name n (by rw [hack])
      rwa [hack] at hmove
  | «over» n => exact .ended n

end Replay

/-- An answer of the collector gives no batch up. -/
theorem Flusher.dropped_counted (f : Flusher) (reply : Reply) :
    (f.counted reply).stats.get .spoolDroppedBatches = f.stats.get .spoolDroppedBatches := by
  rw [counted, countReply]
  cases reply.result with
  | ok _ => simp
  | error e => rfl

namespace Replay.Moves

variable {m : Moment} {f : Flusher} {r : Replay} {next : Replay × Flusher}

/-- Only a pass that removes a batch changes the spool. -/
theorem spool_cases (h : r.Moves m f next) :
    (∃ name n, r = .removing name n ∧ next.2.spool = (f.spool.ack name m.disk).2) ∨
      next.2.spool = f.spool := by
  cases h with
  | removed name n ok => exact Or.inl ⟨name, n, rfl, rfl⟩
  | stuck name n e failed => exact Or.inl ⟨name, n, rfl, rfl⟩
  | _ => exact Or.inr rfl

/-- A pass sends the batch that it has found, or the one that it has sent before. -/
theorem of_sending {b : StoredBatch} {failed n : Nat} (h : r.Moves m f next)
    (hnext : next.1 = .sending b failed n) :
    f.spool.dequeueOldest m.disk = .ok b ∨ ∃ failed', r = .sending b failed' n := by
  cases h with
  | found k c live head =>
    obtain ⟨rfl, -, -⟩ := Replay.sending.inj hnext
    exact Or.inl head
  | again c failed' k e live error more =>
    obtain ⟨rfl, -, rfl⟩ := Replay.sending.inj hnext
    exact Or.inr ⟨failed', rfl⟩
  | _ => exact Replay.noConfusion hnext

/-- A pass removes the batch that the collector has just accepted. -/
theorem of_removing {name : Spool.Name} {n : Nat} (h : r.Moves m f next)
    (hnext : next.1 = .removing name n) :
    m.cancelled = false ∧ m.reply.result = .ok () ∧
      ∃ b failed, r = .sending b failed n ∧ b.name = name := by
  cases h with
  | accepted b failed k live ok =>
    obtain ⟨hname, rfl⟩ := Replay.removing.inj hnext
    exact ⟨live, ok, b, failed, rfl, hname⟩
  | _ => exact Replay.noConfusion hnext

/-- A pass gives no batch up. -/
theorem dropped (h : r.Moves m f next) :
    next.2.stats.get .spoolDroppedBatches = f.stats.get .spoolDroppedBatches := by
  cases h with
  | accepted b failed n live ok => exact f.dropped_counted m.reply
  | again b failed n e live error more => exact f.dropped_counted m.reply
  | gaveUp b failed n e live error last => exact f.dropped_counted m.reply
  | _ => rfl

end Replay.Moves

/-! ## The worker -/

namespace Worker

/-- The batch that the worker sends. -/
def send? (w : Worker) : Option Send :=
  match w.activity with
  | .sending b _ => some b
  | _ => none

/-- The pass over the spool that the worker makes. -/
def pass? (w : Worker) : Option Replay :=
  match w.activity with
  | .replaying r => some r
  | _ => none

/-- The worker sends a batch, or it makes a pass over the spool, or it does neither. -/
theorem activity_cases (w : Worker) :
    (∃ b a, w.activity = .sending b a ∧ w.send? = some b ∧ w.pass? = none) ∨
      (∃ r, w.activity = .replaying r ∧ w.send? = none ∧ w.pass? = some r) ∨
      ((w.activity = .choosing ∨ w.activity = .stopped) ∧ w.send? = none ∧ w.pass? = none) := by
  unfold send? pass?
  cases hw : w.activity with
  | sending b a => exact Or.inl ⟨b, a, rfl, rfl, rfl⟩
  | replaying r => exact Or.inr (Or.inl ⟨r, rfl, rfl, rfl⟩)
  | choosing => exact Or.inr (Or.inr ⟨Or.inl rfl, rfl, rfl⟩)
  | stopped => exact Or.inr (Or.inr ⟨Or.inr rfl, rfl, rfl⟩)

theorem activity_of_send? {w : Worker} {b : Send} (h : w.send? = some b) :
    ∃ a, w.activity = .sending b a := by
  rcases w.activity_cases with ⟨c, a, hw, hsend, -⟩ | ⟨r, -, hsend, -⟩ | ⟨-, hsend, -⟩
  · obtain rfl := Option.some.inj (hsend.symm.trans h)
    exact ⟨a, hw⟩
  · exact absurd (hsend.symm.trans h) (by simp)
  · exact absurd (hsend.symm.trans h) (by simp)

theorem activity_of_pass? {w : Worker} {r : Replay} (h : w.pass? = some r) :
    w.activity = .replaying r := by
  rcases w.activity_cases with ⟨b, a, -, -, hpass⟩ | ⟨r', hw, -, hpass⟩ | ⟨-, -, hpass⟩
  · exact absurd (hpass.symm.trans h) (by simp)
  · obtain rfl := Option.some.inj (hpass.symm.trans h)
    exact hw
  · exact absurd (hpass.symm.trans h) (by simp)

theorem isChoosing_iff {w : Worker} : w.isChoosing = true ↔ w.activity = .choosing := by
  unfold isChoosing
  split
  · next hw => simp [hw]
  · next hw => simpa using hw

/-- The events that the worker has gathered once it has taken note of something. -/
def gathered (w : Worker) (f : Flusher) : Happening → List Event
  | .inbox => w.batch ++ (f.inbox.take?.map Prod.fst).toList
  | _ => w.batch

/-- The inbox once the worker has taken note of something. -/
def remaining (f : Flusher) : Happening → Mailbox Event
  | .inbox => (f.inbox.take?.map Prod.snd).getD f.inbox
  | _ => f.inbox

/-- What the worker has gathered comes before what is left in the inbox. -/
theorem gathered_append_remaining (w : Worker) (f : Flusher) (h : Happening) :
    w.gathered f h ++ (remaining f h).queue = w.batch ++ f.inbox.queue := by
  cases h with
  | cancelled => rfl
  | tick => rfl
  | inbox =>
    rw [gathered, remaining, Mailbox.take?]
    cases hq : f.inbox.queue with
    | nil => simp [hq]
    | cons e rest => simp

/-- The worker gathers one event at a time. -/
theorem length_gathered_le (w : Worker) (f : Flusher) (h : Happening) :
    (w.gathered f h).length ≤ w.batch.length + 1 := by
  cases h with
  | cancelled => exact Nat.le_succ _
  | tick => exact Nat.le_succ _
  | inbox =>
    rw [gathered, List.length_append]
    cases f.inbox.take? with
    | none => exact Nat.le_succ _
    | some e => exact Nat.le_refl _

/-- To take note of something changes nothing but the inbox. -/
theorem notice_snd (w : Worker) (f : Flusher) (now : Instant) (h : Happening) :
    (w.notice f now h).2 = { f with inbox := remaining f h } := by
  cases h with
  | cancelled => rfl
  | tick => rfl
  | inbox =>
    rw [notice, remaining]
    cases f.inbox.take? <;> rfl

/-- The worker sends what it has gathered, if there is anything, and stops. -/
theorem finish_cases (w : Worker) (f : Flusher) (now : Instant) :
    (w.batch ≠ [] ∧ w.finish f now = w.handOver f now .stop) ∨
      (w.batch = [] ∧ w.finish f now = { batch := [], activity := .stopped }) := by
  cases hb : w.batch <;> simp [finish, hb]

/-- The ways in which the worker takes note of something: it sends what it has gathered, or it has gathered
nothing and stops or replays the spool, or it goes on waiting. -/
theorem notice_cases (w : Worker) (f : Flusher) (now : Instant) (h : Happening) :
    (w.gathered f h ≠ [] ∧ ∃ after, (w.notice f now h).1 =
        { batch := [], activity := .sending (.posting (f.payload now (w.gathered f h))) after }) ∨
      (w.gathered f h = [] ∧ ((w.notice f now h).1 = { batch := [], activity := .stopped } ∨
        (w.notice f now h).1 = { batch := [], activity := .replaying .starting })) ∨
      ((w.gathered f h = w.batch ∨ (w.gathered f h).length < f.batchLimit) ∧
        (w.notice f now h).1 = { w with batch := w.gathered f h }) := by
  cases h with
  | cancelled =>
    rcases w.finish_cases f now with ⟨hne, heq⟩ | ⟨hnil, heq⟩
    · exact Or.inl ⟨hne, .stop, heq⟩
    · exact Or.inr (Or.inl ⟨hnil, Or.inl heq⟩)
  | tick =>
    by_cases hb : w.batch = []
    · exact Or.inr (Or.inl ⟨hb, Or.inr (by simp [notice, hb])⟩)
    · exact Or.inl ⟨hb, .replay, by simp [notice, hb, handOver, gathered]⟩
  | inbox =>
    cases htake : f.inbox.take? with
    | some e =>
      have hgathered : w.gathered f .inbox = w.batch ++ [e.1] := by simp [gathered, htake]
      rw [hgathered]
      -- the event may be the one that makes the batch full
      by_cases hroom : (w.batch ++ [e.1]).length < f.batchLimit
      · refine Or.inr (Or.inr ⟨Or.inr hroom, ?_⟩)
        simp only [notice, htake]
        exact if_pos hroom
      · refine Or.inl ⟨by simp, .choose, ?_⟩
        simp only [notice, htake]
        exact if_neg hroom
    | none =>
      have hgathered : w.gathered f .inbox = w.batch := by simp [gathered, htake]
      rw [hgathered]
      -- an empty inbox ends the worker only when no event will come any more
      by_cases hopen : f.sendersOpen = true
      · exact Or.inr (Or.inr ⟨Or.inl rfl, by simp [notice, htake, hopen]⟩)
      · rcases w.finish_cases f now with ⟨hne, heq⟩ | ⟨hnil, heq⟩
        · exact Or.inl ⟨hne, .stop, by simp [notice, htake, hopen, heq, handOver]⟩
        · exact Or.inr (Or.inl ⟨hnil, Or.inl (by simp [notice, htake, hopen, heq])⟩)

/-- When the worker takes note of something, the pass that it then makes is one that starts. -/
theorem pass?_notice {w : Worker} {f : Flusher} {now : Instant} {h : Happening} {r : Replay}
    (hr : (w.notice f now h).1.pass? = some r) : r = .starting ∨ w.pass? = some r := by
  rcases w.notice_cases f now h with ⟨-, a, heq⟩ | ⟨-, heq | heq⟩ | ⟨-, heq⟩
  · rw [heq, pass?] at hr
    exact absurd hr (by simp)
  · rw [heq, pass?] at hr
    exact absurd hr (by simp)
  · rw [heq, pass?] at hr
    exact Or.inl (Option.some.inj hr).symm
  · rw [heq] at hr
    exact Or.inr hr

/-- Whatever the worker does after a batch, it sends none then. -/
theorem send?_activity (a : Then) (batch : List Event) : send? ⟨batch, a.activity⟩ = none := by
  cases a <;> rfl

/-- A worker that sends takes its batch further, or is done with it. -/
theorem step_of_sending {w : Worker} {b : Send} {a : Then} (hw : w.activity = .sending b a)
    (m : Moment) (f : Flusher) :
    w.step m f = ({ w with activity :=
      if (b.step m f).1.isDone then a.activity else .sending (b.step m f).1 a }, (b.step m f).2) := by
  rw [step, hw]

/-- A worker that replays the spool takes its pass further, or is done with it. -/
theorem step_of_replaying {w : Worker} {r : Replay} (hw : w.activity = .replaying r)
    (m : Moment) (f : Flusher) :
    w.step m f = ({ w with activity :=
      if (r.step m f).1.isOver then .choosing else .replaying (r.step m f).1 }, (r.step m f).2) := by
  rw [step, hw]

/-- A worker that waits or has stopped takes nothing further. -/
theorem step_of_idle {w : Worker} (hw : w.activity = .choosing ∨ w.activity = .stopped) (m : Moment)
    (f : Flusher) : w.step m f = (w, f) := by
  rcases hw with hw | hw <;> rw [step, hw]

/-- The pass that the worker makes starts, or was taken further. -/
theorem pass?_step {w : Worker} {f : Flusher} {m : Moment} {r : Replay}
    (h : (w.step m f).1.pass? = some r) :
    r = .starting ∨ ∃ r₀, w.pass? = some r₀ ∧ r = (r₀.step m f).1 := by
  rcases w.activity_cases with ⟨b, a, hw, -, -⟩ | ⟨r₀, hw, -, hpass⟩ | ⟨hw, -, hpass⟩
  · -- only a batch that is at its end makes way for a pass
    rw [step_of_sending hw] at h
    unfold pass? at h
    by_cases hdone : (b.step m f).1.isDone = true
    · rw [if_pos hdone] at h
      cases a with
      | replay => exact Or.inl (Option.some.inj h).symm
      | choose => exact absurd h (by simp [Then.activity])
      | stop => exact absurd h (by simp [Then.activity])
    · rw [if_neg hdone] at h
      exact absurd h (by simp)
  · refine Or.inr ⟨r₀, hpass, ?_⟩
    rw [step_of_replaying hw] at h
    unfold pass? at h
    by_cases hover : (r₀.step m f).1.isOver = true
    · rw [if_pos hover] at h
      exact absurd h (by simp)
    · rw [if_neg hover] at h
      exact (Option.some.inj h).symm
  · rw [step_of_idle hw, hpass] at h
    exact absurd h (by simp)

/-- The payload of the worker's batch before a step is the one that has ended or the one that is left. -/
theorem toList_payload?_step {w : Worker} {b : Send} (hb : w.send? = some b) (m : Moment)
    (f : Flusher) :
    b.payload?.toList =
      (if (b.step m f).1.isDone then b.payload? else none).toList
        ++ ((w.step m f).1.send?.bind Send.payload?).toList := by
  obtain ⟨a, hw⟩ := activity_of_send? hb
  have hleft : (w.step m f).1.send?.bind Send.payload? = (b.step m f).1.payload? := by
    rw [step_of_sending hw, (b.moves_step m f).payload?_eq]
    by_cases hdone : (b.step m f).1.isDone = true
    · rw [if_pos hdone, if_pos hdone, send?_activity, Option.bind_none]
    · rw [if_neg hdone, if_neg hdone]
      show (b.step m f).1.payload? = b.payload?
      rw [(b.moves_step m f).payload?_eq, if_neg hdone]
  rw [hleft]
  exact (b.moves_step m f).toList_payload?

/-- A worker that sends no batch sends none after a step. -/
theorem send?_step_of_none {w : Worker} (hnone : w.send? = none) (m : Moment) (f : Flusher) :
    (w.step m f).1.send? = none := by
  rcases w.activity_cases with ⟨b, a, -, hsend, -⟩ | ⟨r, hw, -, -⟩ | ⟨hw, -, -⟩
  · exact absurd (hsend.symm.trans hnone) (by simp)
  · rw [step_of_replaying hw]
    unfold send?
    by_cases hover : (r.step m f).1.isOver = true
    · rw [if_pos hover]
    · rw [if_neg hover]
  · rw [step_of_idle hw, hnone]

end Worker

/-! ## The inbox -/

/-- An event that finds room is the last one in the inbox. -/
theorem Flusher.ingest_of_hasRoom {f : Flusher} (h : f.inbox.hasRoom = true) (e : Event) :
    f.ingest e = (true, { f with inbox := { f.inbox with queue := f.inbox.queue ++ [e] } }) := by
  simp [Flusher.ingest, Mailbox.send, Mailbox.put, h]

/-- An event that finds no room is counted. -/
theorem Flusher.ingest_of_not_hasRoom {f : Flusher} (h : f.inbox.hasRoom = false) (e : Event) :
    f.ingest e = (false, { f with stats := f.stats.recordDrop .httpBatch }) := by
  simp [Flusher.ingest, Mailbox.send, h]

/-- To offer an event to the inbox is nothing to the spool. -/
theorem Flusher.spool_ingest (f : Flusher) (e : Event) :
    (f.ingest e).2.spool = f.spool ∧
      (f.ingest e).2.stats.get .spoolDroppedBatches = f.stats.get .spoolDroppedBatches := by
  cases h : f.inbox.hasRoom with
  | true =>
    rw [Flusher.ingest_of_hasRoom h]
    exact ⟨rfl, rfl⟩
  | false =>
    rw [Flusher.ingest_of_not_hasRoom h]
    exact ⟨rfl, rfl⟩

end RouterTelemetry.Delivery
