import RouterTelemetry.Proofs.Delivery.History
import RouterTelemetry.Proofs.Spool.Contents
/-!
# No batch is lost without a trace

What becomes of the batches that are handed over for sending, in any run of the flusher with any calls side by
side, any answers of the collector, any failures of the file system and any times. `Accounted` says where each
batch is: the collector has accepted it, or it is in the spool, or it made room for another one, or the spool
has refused it, which is counted. Main statements:

* `Sound.after` : what one step preserves;
* `accounted` : what a whole run says about its batches.

The spool must be the only one to touch its directory, which is empty at the start. Behind the result stands
that a name is never given twice: when a pass over the spool removes a batch by its name, no other batch can
have come under that name in the meantime.
-/

namespace RouterTelemetry.Delivery

open Text (Bytes)
open Time (Instant)
open Spool (StoredBatch)

/-! ## The spool in one step -/

/-- A payload is never empty: it is the text of an object. -/
theorem Flusher.payload_ne_nil (f : Flusher) (now : Instant) (events : List Event) :
    f.payload now events ≠ [] := by
  rw [payload, Batch.toPayload, Batch.toJson, Json.render, Text.encodeUtf8, List.flatMap_cons]
  exact List.append_ne_nil_of_left_ne_nil (by decide) _

namespace Transition

/-- A step stores a batch in the spool, or removes one that was delivered, or leaves the spool alone. -/
theorem spool_cases (t : Transition) :
    (∃ p m, t.send? = some (.storing p, m) ∧ t.after.flusher.spool =
        (t.before.flusher.spool.enqueue m.clock.nanos p m.disk).2) ∨
      (∃ name disk, t.removed? = some name ∧
        t.after.flusher.spool = (t.before.flusher.spool.ack name disk).2) ∨
      t.after.flusher.spool = t.before.flusher.spool := by
  rcases t.cases with ⟨b, m, hsend, -, heq⟩ | ⟨r, m, -, hpass, heq⟩ | ⟨-, -, heq, -⟩
  · rw [heq]
    rcases (b.moves_step m t.before.flusher).spool_cases with ⟨p, rfl, hspool⟩ | hspool
    · exact Or.inl ⟨p, m, hsend, hspool⟩
    · exact Or.inr (Or.inr hspool)
  · rw [heq]
    rcases (r.moves_step m t.before.flusher).spool_cases with ⟨name, n, rfl, hspool⟩ | hspool
    · exact Or.inr (Or.inl ⟨name, m.disk, by rw [removed?, hpass], hspool⟩)
    · exact Or.inr (Or.inr hspool)
  · exact Or.inr (Or.inr heq)

/-- A batch is given up in a step exactly when the spool refuses it. -/
theorem droppedBatches_after (t : Transition) :
    t.after.droppedBatches = t.before.droppedBatches + t.rejected?.toList.length := by
  rcases t.cases with ⟨b, m, hsend, -, heq⟩ | ⟨r, m, hsend, hpass, heq⟩ | ⟨hsend, -, -, heq⟩
  · rw [System.droppedBatches, System.droppedBatches, heq]
    have hmove := b.moves_step m t.before.flusher
    generalize b.step m t.before.flusher = next at hmove
    cases hmove with
    | accepted p ok => simp [rejected?, hsend, Flusher.dropped_counted]
    | refused p e failed => simp [rejected?, hsend, Flusher.dropped_counted]
    | spooled p ok => simp [rejected?, hsend, ok]
    | rejected p e failed => simp [rejected?, hsend, failed]
    | done fate => simp [rejected?, hsend]
  · rw [System.droppedBatches, System.droppedBatches, heq, (r.moves_step m t.before.flusher).dropped]
    simp [rejected?, hsend]
  · rw [heq]
    simp [rejected?, hsend]

theorem rejected?_eq_some {t : Transition} {p : Bytes} :
    t.rejected? = some p ↔ ∃ m e, t.send? = some (.storing p, m) ∧
      (t.before.flusher.spool.enqueue m.clock.nanos p m.disk).1 = .error e := by
  unfold rejected?
  constructor
  · intro h
    split at h
    · next q m hsend =>
      cases hq : (t.before.flusher.spool.enqueue m.clock.nanos q m.disk).1 with
      | ok _ => exact absurd h (by simp [hq])
      | error e =>
        simp only [hq] at h
        obtain rfl := Option.some.inj h
        exact ⟨m, e, hsend, hq⟩
    · exact absurd h (by simp)
  · rintro ⟨m, e, hsend, hq⟩
    simp [hsend, hq]

theorem replayed?_eq_some {t : Transition} {b : StoredBatch} :
    t.replayed? = some b ↔
      (∃ failed n m, t.pass? = some (.sending b failed n, m)) ∧ t.accepted? = some b.content := by
  unfold replayed?
  constructor
  · intro h
    split at h
    · next c failed n m hpass =>
      split at h
      · next haccepted =>
        obtain rfl := Option.some.inj h
        exact ⟨⟨failed, n, m, hpass⟩, haccepted⟩
      · exact absurd h (by simp)
    · exact absurd h (by simp)
  · rintro ⟨⟨failed, n, m, hpass⟩, haccepted⟩
    simp [hpass, haccepted]

theorem removed?_eq_some {t : Transition} {name : Spool.Name} :
    t.removed? = some name ↔ ∃ n m, t.pass? = some (.removing name n, m) := by
  unfold removed?
  constructor
  · intro h
    split at h
    · next name' n m hpass =>
      obtain rfl := Option.some.inj h
      exact ⟨n, m, hpass⟩
    · exact absurd h (by simp)
  · rintro ⟨n, m, hpass⟩
    rw [hpass]

theorem returned?_eq_some {t : Transition} {p : Bytes} :
    t.returned? = some p ↔ ∃ b m, t.send? = some (b, m) ∧ b.payload? = some p ∧
      (b.step m t.before.flusher).1.isDone = true := by
  unfold returned?
  constructor
  · intro h
    split at h
    · next b m hsend =>
      by_cases hdone : (b.step m t.before.flusher).1.isDone = true
      · rw [if_pos hdone] at h
        exact ⟨b, m, hsend, h, hdone⟩
      · rw [if_neg hdone] at h
        exact absurd h (by simp)
    · exact absurd h (by simp)
  · rintro ⟨b, m, hsend, hp, hdone⟩
    simp only [hsend, if_pos hdone, hp]

/-- A batch that the spool refuses is at its end. -/
theorem returned?_of_rejected? {t : Transition} {p : Bytes} (h : t.rejected? = some p) :
    t.returned? = some p := by
  obtain ⟨m, e, hsend, hq⟩ := rejected?_eq_some.mp h
  have hmove := Send.moves_step m t.before.flusher (.storing p)
  rw [returned?, hsend]
  dsimp only
  generalize Send.step m t.before.flusher (.storing p) = next at hmove
  cases hmove with
  | spooled p ok => exact absurd (ok.symm.trans hq) (by simp)
  | rejected p e failed => rfl

/-- The batch that a pass is about to remove was accepted in the step before it. -/
theorem replayed?_of_removing {t : Transition} {r : Replay} {m : Moment} {name : Spool.Name} {n : Nat}
    (hpass : t.pass? = some (r, m)) (h : (r.step m t.before.flusher).1 = .removing name n) :
    ∃ b, t.replayed? = some b ∧ b.name = name := by
  obtain ⟨hlive, hok, b, failed, rfl, hname⟩ := (r.moves_step m t.before.flusher).of_removing h
  refine ⟨b, replayed?_eq_some.mpr ⟨⟨failed, n, m, hpass⟩, ?_⟩, hname⟩
  rw [accepted?_of_pass? hpass hok, hlive]
  rfl

end Transition

/-! ## What a run knows of its batches -/

/-- What a pass is at is known: the batch that it sends was in the spool, and the one that it removes was
accepted by the collector. -/
def Replay.Sound (past : List Transition) (spool : Spool) : Replay → Prop
  | .sending b _ _ => spool.Knows b
  | .removing name _ => ∃ u ∈ past, ∃ b, u.replayed? = some b ∧ b.name = name
  | _ => True

/-- What holds after a run so far. -/
structure Sound (past : List Transition) (s : System) : Prop where
  tidy : s.flusher.spool.Tidy
  known : ∀ u ∈ past, ∀ b, u.replayed? = some b → s.flusher.spool.Knows b
  passes : ∀ r ∈ s.running, r.Sound past s.flusher.spool
  nonempty : ∀ p ∈ s.pending, p ≠ []

namespace Sound

variable {past : List Transition} {t : Transition}

/-- The batch that is to be stored is not empty. -/
theorem ne_nil (h : Sound past t.before) {p : Bytes} {m : Moment}
    (hsend : t.send? = some (.storing p, m)) : p ≠ [] :=
  h.nonempty p (List.mem_filterMap.mpr ⟨_, Transition.mem_sending hsend, rfl⟩)

theorem tidy_after (h : Sound past t.before) : t.after.flusher.spool.Tidy := by
  rcases t.spool_cases with ⟨p, m, hsend, heq⟩ | ⟨name, disk, -, heq⟩ | heq
  · rw [heq]
    exact (Spool.batches_enqueue h.tidy _ (h.ne_nil hsend) _).1
  · rw [heq]
    exact (Spool.batches_ack h.tidy name disk).1
  · rw [heq]
    exact h.tidy

/-- What is known of a batch stays known. -/
theorem knows_after (h : Sound past t.before) {b : StoredBatch}
    (hb : t.before.flusher.spool.Knows b) : t.after.flusher.spool.Knows b := by
  rcases t.spool_cases with ⟨p, m, hsend, heq⟩ | ⟨name, disk, -, heq⟩ | heq
  · rw [heq]
    exact hb.enqueue h.tidy _ (h.ne_nil hsend) _
  · rw [heq]
    exact hb.ack h.tidy name disk
  · rw [heq]
    exact hb

/-- A batch that is replayed is known. -/
theorem knows_of_replayed? (h : Sound past t.before) {b : StoredBatch}
    (hb : t.replayed? = some b) : t.before.flusher.spool.Knows b := by
  obtain ⟨⟨failed, n, m, hpass⟩, -⟩ := Transition.replayed?_eq_some.mp hb
  exact h.passes _ (Transition.mem_running hpass)

/-- What a pass is at stays known while it is not taken further. -/
theorem replay_after (h : Sound past t.before) {r : Replay}
    (hr : r.Sound past t.before.flusher.spool) :
    r.Sound (past ++ [t]) t.after.flusher.spool := by
  cases r with
  | sending b failed n => exact h.knows_after hr
  | removing name n =>
    obtain ⟨u, hu, b, hb⟩ := hr
    exact ⟨u, List.mem_append_left _ hu, b, hb⟩
  | _ => trivial

/-- What a pass is at after it was taken further is known. -/
theorem replay_step (h : Sound past t.before) {r : Replay} {m : Moment}
    (hpass : t.pass? = some (r, m)) :
    (r.step m t.before.flusher).1.Sound (past ++ [t]) t.after.flusher.spool := by
  have hr : r.Sound past t.before.flusher.spool := h.passes _ (Transition.mem_running hpass)
  cases hnext : (r.step m t.before.flusher).1 with
  | sending b failed n =>
    rcases (r.moves_step m t.before.flusher).of_sending hnext with hfound | ⟨failed', rfl⟩
    · exact h.knows_after (h.tidy.knows (Spool.mem_of_dequeueOldest hfound))
    · exact h.knows_after hr
  | removing name n =>
    obtain ⟨b, hb⟩ := Transition.replayed?_of_removing hpass hnext
    exact ⟨t, List.mem_append_right _ (List.mem_singleton.mpr rfl), b, hb⟩
  | _ => trivial

/-- **What one step preserves.** -/
theorem after (h : Sound past t.before) : Sound (past ++ [t]) t.after where
  tidy := h.tidy_after
  known := by
    intro u hu b hb
    rcases List.mem_append.mp hu with hu | hu
    · exact h.knows_after (h.known u hu b hb)
    · obtain rfl := List.mem_singleton.mp hu
      exact h.knows_after (h.knows_of_replayed? hb)
  passes := by
    intro r hr
    rcases Transition.mem_running_after hr with hr | rfl | ⟨r₀, m, hpass, rfl⟩
    · exact h.replay_after (h.passes r hr)
    · trivial
    · exact h.replay_step hpass
  nonempty := by
    intro p hp
    have hmem := t.perm_pending.mem_iff.mpr (List.mem_append_right _ hp)
    rcases List.mem_append.mp hmem with hhanded | hpending
    · -- a payload that was handed over in this step is the text of an object
      obtain ⟨now, events, rfl⟩ :=
        Transition.exists_payload_of_handed? (Option.mem_toList.mp hhanded)
      exact t.before.flusher.payload_ne_nil now events
    · exact h.nonempty p hpending

/-- What a whole run preserves. -/
theorem steps {s : System} (h : Sound past s) (ss : List Step) :
    Sound (past ++ s.history ss) (s.steps ss) := by
  induction ss generalizing past s with
  | nil => rwa [System.history, List.append_nil]
  | cons a ss ih =>
    have hnext := ih (h.after (t := ⟨s, a⟩))
    rwa [List.append_assoc] at hnext

/-- A batch leaves the spool because it makes room, or because a pass over the spool removes it; then the
collector has accepted it before. -/
theorem left (h : Sound past t.before) {b : StoredBatch} (hb : b ∈ t.before.stored)
    (hgone : b ∉ t.after.stored) :
    t.Evicts b ∨ (t.removed? = some b.name ∧ ∃ u ∈ past, u.replayed? = some b) := by
  unfold System.stored at hb
  rcases t.spool_cases with ⟨p, m, hsend, heq⟩ | ⟨name, disk, hremoved, heq⟩ | heq
  · refine Or.inl ⟨hgone, p, m, hsend, ?_⟩
    by_contra hstays
    rw [System.stored, heq] at hgone
    rcases (Spool.batches_enqueue h.tidy m.clock.nanos (h.ne_nil hsend) m.disk).2 with
      ⟨-, -, hmem⟩ | ⟨-, hmem⟩
    · exact hgone ((hmem b).mpr (Or.inl ⟨hb, hstays⟩))
    · exact hgone ((hmem b).mpr ⟨hb, hstays⟩)
  · rw [System.stored, heq] at hgone
    rcases (Spool.batches_ack h.tidy name disk).2 with ⟨-, hmem⟩ | ⟨-, hsame⟩
    · have hname : b.name = name := by
        by_contra hne
        exact hgone ((hmem b).mpr ⟨hb, hne⟩)
      obtain ⟨n, m, hpass⟩ := Transition.removed?_eq_some.mp hremoved
      obtain ⟨u, hu, c, hc, hcname⟩ := h.passes _ (Transition.mem_running hpass)
      -- the batch that was accepted is the one that is removed
      have hbc : b = c := (h.known u hu c hc).2 b hb (hname.trans hcname.symm)
      exact Or.inr ⟨hname ▸ hremoved, u, hu, hbc ▸ hc⟩
    · exact absurd hb (hsame ▸ hgone)
  · rw [System.stored, heq] at hgone
    exact absurd hb hgone

/-- A batch that is at its end was accepted, or it is stored as a new batch, or it was refused. -/
theorem returned (h : Sound past t.before) {p : Bytes} (hp : t.returned? = some p) :
    t.accepted? = some p ∨
      (∃ b, b.content = p ∧ b ∉ t.before.stored ∧ b ∈ t.after.stored ∧
        ∀ u ∈ past ++ [t], u.replayed? ≠ some b) ∨
      t.rejected? = some p := by
  obtain ⟨b, m, hsend, hpayload, hdone⟩ := Transition.returned?_eq_some.mp hp
  have hmove := b.moves_step m t.before.flusher
  generalize b.step m t.before.flusher = next at hmove hdone
  cases hmove with
  | accepted q ok =>
    refine Or.inl ?_
    rw [Transition.accepted?_of_send? hsend ok]
    exact hpayload
  | refused q e failed => exact absurd hdone (by simp [Send.isDone])
  | spooled q ok =>
    obtain rfl := Option.some.inj hpayload
    refine Or.inr (Or.inl ⟨⟨Spool.batchName (t.before.flusher.spool.nextNanos m.clock.nanos), q⟩,
      rfl, ?_, ?_, ?_⟩)
    · intro hold
      exact (h.tidy.knows hold).name_ne m.clock.nanos rfl
    · have hmoves := (Send.storing q).moves_step m t.before.flusher
      rw [System.stored, Transition.flusher_of_send? hsend, hmoves.spool_of_storing]
      rcases (Spool.batches_enqueue h.tidy m.clock.nanos (h.ne_nil hsend) m.disk).2 with
        ⟨-, -, hmem⟩ | ⟨⟨e, he⟩, -⟩
      · exact (hmem _).mpr (Or.inr rfl)
      · exact absurd (ok.symm.trans he) (by simp)
    · -- a batch that was replayed before is known, and its name is not given again
      intro u hu hreplayed
      have hknown : t.before.flusher.spool.Knows
          ⟨Spool.batchName (t.before.flusher.spool.nextNanos m.clock.nanos), q⟩ := by
        rcases List.mem_append.mp hu with hu | hu
        · exact h.known u hu _ hreplayed
        · obtain rfl := List.mem_singleton.mp hu
          exact h.knows_of_replayed? hreplayed
      exact hknown.name_ne m.clock.nanos rfl
  | rejected q e failed =>
    obtain rfl := Option.some.inj hpayload
    exact Or.inr (Or.inr (Transition.rejected?_eq_some.mpr ⟨m, e, hsend, failed⟩))
  | done fate => exact absurd hpayload (by simp [Send.payload?])

/-- A stored batch stays in the spool, or it makes room, or the collector accepts it. -/
theorem stays {s : System} (h : Sound past s) (ss : List Step) {b : StoredBatch}
    (hb : b ∈ s.stored) (hnew : ∀ u ∈ past, u.replayed? ≠ some b) :
    b ∈ (s.steps ss).stored ∨ (∃ u ∈ s.history ss, u.Evicts b) ∨
      ∃ u ∈ s.history ss, u.replayed? = some b := by
  induction ss generalizing past s with
  | nil => exact Or.inl hb
  | cons a ss ih =>
    have hfirst : (⟨s, a⟩ : Transition) ∈ s.history (a :: ss) := List.mem_cons_self ..
    by_cases hreplayed : (⟨s, a⟩ : Transition).replayed? = some b
    · exact Or.inr (Or.inr ⟨_, hfirst, hreplayed⟩)
    by_cases hafter : b ∈ (⟨s, a⟩ : Transition).after.stored
    · have hnew' : ∀ u ∈ past ++ [⟨s, a⟩], u.replayed? ≠ some b := by
        intro u hu
        rcases List.mem_append.mp hu with hu | hu
        · exact hnew u hu
        · exact List.mem_singleton.mp hu ▸ hreplayed
      rcases ih (h.after (t := ⟨s, a⟩)) hafter hnew' with hstill | ⟨u, hu, hev⟩ | ⟨u, hu, hrep⟩
      · exact Or.inl hstill
      · exact Or.inr (Or.inl ⟨u, List.mem_cons_of_mem _ hu, hev⟩)
      · exact Or.inr (Or.inr ⟨u, List.mem_cons_of_mem _ hu, hrep⟩)
    · -- a batch that was never accepted can only have made room
      rcases h.left (t := ⟨s, a⟩) hb hafter with hev | ⟨-, u, hu, hrep⟩
      · exact Or.inr (Or.inl ⟨_, hfirst, hev⟩)
      · exact absurd hrep (hnew u hu)

end Sound

/-! ## Whole runs -/

/-- Every batch that was handed over has ended or is on its way. -/
theorem perm_handed (s : System) (ss : List Step) :
    ((s.history ss).filterMap Transition.handed? ++ s.pending).Perm
      ((s.history ss).filterMap Transition.returned? ++ (s.steps ss).pending) := by
  induction ss generalizing s with
  | nil => exact List.Perm.refl _
  | cons a ss ih =>
    have hstep := (⟨s, a⟩ : Transition).perm_pending
    rw [System.history, filterMap_cons_eq_append, filterMap_cons_eq_append, System.steps_cons,
      List.append_assoc, List.append_assoc]
    refine (List.perm_append_comm_assoc ..).trans ((hstep.append_left _).trans ?_)
    exact (List.perm_append_comm_assoc ..).trans ((ih (s.step a)).append_left _)

/-- Where the batches of a run are. -/
structure Accounted (s : System) (ss : List Step) : Prop where
  /-- Each batch that was handed over has ended or is on its way. -/
  handed : ((s.history ss).filterMap Transition.handed?).Perm
    ((s.history ss).filterMap Transition.returned? ++ (s.steps ss).pending)
  /-- A batch that has ended was accepted by the collector there and then, or stored byte for byte, or
  refused by the spool and counted. One that was stored is in the spool to the end, unless it made room for
  another one or the collector has accepted it from the spool. -/
  ended : ∀ {prior t later p}, s.history ss = prior ++ t :: later → t.returned? = some p →
    t.accepted? = some p ∨
      (∃ b, b.content = p ∧ b ∉ t.before.stored ∧ b ∈ t.after.stored ∧
        (b ∈ (s.steps ss).stored ∨ (∃ u ∈ later, u.Evicts b) ∨ ∃ u ∈ later, u.replayed? = some b)) ∨
      (t.rejected? = some p ∧ t.after.droppedBatches = t.before.droppedBatches + 1)
  /-- No batch is counted as given up but those that were refused, each of them once. -/
  dropped : (s.steps ss).droppedBatches =
    s.droppedBatches + ((s.history ss).filterMap Transition.rejected?).length
  /-- Each refusal is the end of a batch. -/
  refused : ∀ t ∈ s.history ss, ∀ p, t.rejected? = some p → t.returned? = some p
  /-- A stored batch leaves the spool only to make room, or when a pass over the spool removes it after the
  collector has accepted it, byte for byte. -/
  left : ∀ {prior t later b}, s.history ss = prior ++ t :: later → b ∈ t.before.stored →
    b ∉ t.after.stored →
      t.Evicts b ∨ (t.removed? = some b.name ∧ ∃ u ∈ prior, u.replayed? = some b)

/-- **No batch is lost without a trace.** In any run that starts with an empty directory, whatever is done
in whatever order, every batch is accounted for. -/
theorem accounted (f : Flusher) (hplace : f.spool.place = .directory {}) (ss : List Step) :
    Accounted { flusher := f } ss := by
  have hstart : Sound [] { flusher := f } :=
    ⟨Spool.tidy_empty _ hplace, fun u hu => absurd hu List.not_mem_nil,
      fun r hr => absurd hr List.not_mem_nil, fun p hp => absurd hp List.not_mem_nil⟩
  -- what comes before a step of the history is a run of its own
  have hprior {prior later : List Transition} {t : Transition}
      (h : System.history { flusher := f } ss = prior ++ t :: later) : Sound prior t.before := by
    obtain ⟨ss₁, ss₂, -, hhistory, hbefore, -⟩ := System.history_eq_cons h
    have hsound := hstart.steps ss₁
    rwa [List.nil_append, hhistory, hbefore] at hsound
  have hdropped := eq_add_length_filterMap Transition.droppedBatches_after { flusher := f } ss
  refine ⟨?_, ?_, hdropped, fun t _ p => Transition.returned?_of_rejected?, ?_⟩
  · have hperm := perm_handed { flusher := f } ss
    rwa [show System.pending { flusher := f } = [] from rfl, List.append_nil] at hperm
  · intro prior t later p h hp
    rcases (hprior h).returned hp with haccepted | ⟨b, hcontent, hnew, hstored, hfresh⟩ | hrefused
    · exact Or.inl haccepted
    · obtain ⟨ss₁, ss₂, -, -, -, hlater, hfinal⟩ := System.history_eq_cons h
      have hstays := (hprior h).after.stays ss₂ hstored hfresh
      rw [hlater, hfinal] at hstays
      exact Or.inr (Or.inl ⟨b, hcontent, hnew, hstored, hstays⟩)
    · refine Or.inr (Or.inr ⟨hrefused, ?_⟩)
      rw [t.droppedBatches_after, hrefused]
      rfl
  · intro prior t later b h hb hgone
    exact (hprior h).left hb hgone

/-- A flusher with an empty spool that has room for one batch of one event. -/
def smallFlusher : Flusher where
  routerId := "r"
  maxEvents := 2
  attempts := 1
  spool := { place := .directory {}, maxBytes := 150 }
  inbox := .empty 4

/-- An outage: the collector cannot be reached for the first batch, nor for the second one, which does not
fit into the spool. The first one is replayed, while the second one is on its way. -/
def outage : List Step :=
  let down : Moment := { clock := ⟨⟨0, 0⟩, 5⟩, reply := .broken }
  let up : Moment := { clock := ⟨⟨0, 0⟩, 4⟩, reply := .status 204 }
  let beat : Event := ⟨⟨0, 0⟩, .heartbeat ⟨"r"⟩⟩
  [.startSend ⟨0, 0⟩ [beat], .send 0 down, .send 0 down, .startSend ⟨0, 0⟩ [beat, beat], .send 1 down,
    .startPass, .pass 0 up, .pass 0 up, .pass 0 up, .pass 0 up, .send 1 down]

/-- In an outage one batch is replayed and the other one is counted as given up. -/
theorem accounted_outage :
    smallFlusher.spool.place = .directory {} ∧ Accounted { flusher := smallFlusher } outage ∧
      ((System.history { flusher := smallFlusher } outage).filterMap
        Transition.replayed?).length = 1 ∧
      (System.steps { flusher := smallFlusher } outage).droppedBatches = 1 :=
  ⟨rfl, accounted smallFlusher rfl outage, by decide +kernel, by decide +kernel⟩

end RouterTelemetry.Delivery
