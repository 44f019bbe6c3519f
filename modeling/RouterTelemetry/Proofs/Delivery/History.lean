import Mathlib.Data.List.Perm.Basic
import RouterTelemetry.Proofs.Delivery.Steps
/-!
# The history of a run

Each step of a run with the system in which it was taken, and what such a step has to do with batches, with
the spool and with the collector. Main statements:

* `Transition.cases` : a step takes one batch further, or one pass over the spool, or it has nothing to do
  with the spool;
* `Transition.perm_pending` : what one step does to the batches that are on their way;
* `history_eq_append` : each part of a history is the history of a run of its own.
-/

namespace RouterTelemetry.Delivery

open Text (Bytes)

/-! ## Histories -/

/-- A step that is taken, and the system in which it is taken. -/
structure Transition where
  before : System
  step : Step

/-- The system after the step. -/
def Transition.after (t : Transition) : System :=
  t.before.step t.step

namespace System

/-- The steps of a run with the systems in which they are taken, the first one first. -/
def history (s : System) : List Step → List Transition
  | [] => []
  | a :: ss => ⟨s, a⟩ :: (s.step a).history ss

theorem steps_cons (s : System) (a : Step) (ss : List Step) :
    s.steps (a :: ss) = (s.step a).steps ss := rfl

theorem steps_append (s : System) (ss₁ ss₂ : List Step) :
    s.steps (ss₁ ++ ss₂) = (s.steps ss₁).steps ss₂ := by
  rw [steps, List.foldl_append]
  rfl

/-- Each part of a history is the history of a run of its own. -/
theorem history_eq_append {s : System} {ss : List Step} {prior later : List Transition}
    (h : s.history ss = prior ++ later) :
    ∃ ss₁ ss₂, ss = ss₁ ++ ss₂ ∧ s.history ss₁ = prior ∧ (s.steps ss₁).history ss₂ = later := by
  induction ss generalizing s prior with
  | nil =>
    obtain ⟨rfl, rfl⟩ := List.append_eq_nil_iff.mp h.symm
    exact ⟨[], [], rfl, rfl, rfl⟩
  | cons a ss ih =>
    cases prior with
    | nil => exact ⟨[], a :: ss, rfl, rfl, h⟩
    | cons t prior =>
      obtain ⟨hhead, htail⟩ := List.cons.inj h
      obtain ⟨ss₁, ss₂, hsplit, hprior, hlater⟩ := ih htail
      refine ⟨a :: ss₁, ss₂, by rw [hsplit, List.cons_append], ?_, hlater⟩
      rw [history, hprior, hhead]

/-- What comes before and after one step of a history. -/
theorem history_eq_cons {s : System} {ss : List Step} {prior later : List Transition}
    {t : Transition} (h : s.history ss = prior ++ t :: later) :
    ∃ ss₁ ss₂, ss = ss₁ ++ t.step :: ss₂ ∧ s.history ss₁ = prior ∧ s.steps ss₁ = t.before ∧
      t.after.history ss₂ = later ∧ t.after.steps ss₂ = s.steps ss := by
  obtain ⟨ss₁, ss₂, hsplit, hprior, hlater⟩ := history_eq_append h
  cases ss₂ with
  | nil => exact absurd hlater (by simp [history])
  | cons a ss₂ =>
    obtain ⟨hhead, htail⟩ := List.cons.inj hlater
    subst hhead
    refine ⟨ss₁, ss₂, hsplit, hprior, rfl, htail, ?_⟩
    rw [hsplit, steps_append]
    rfl

end System

/-! ## What a step has to do with batches and passes -/

/-- The batches that were handed over for sending, the worker's own one first. -/
def System.sending (s : System) : List Send :=
  s.worker.send?.toList ++ s.sends

/-- The payloads of the batches that are on their way. -/
def System.pending (s : System) : List Bytes :=
  s.sending.filterMap Send.payload?

/-- The passes over the spool, the worker's own one first. -/
def System.running (s : System) : List Replay :=
  s.worker.pass?.toList ++ s.passes

/-- The batches in the spool. -/
def System.stored (s : System) : List Spool.StoredBatch :=
  s.flusher.spool.batches

/-- How many batches were given up. -/
def System.droppedBatches (s : System) : Nat :=
  s.flusher.stats.get .spoolDroppedBatches

namespace Transition

/-- The batch that a step takes further, and the moment at which it does. -/
def send? (t : Transition) : Option (Send × Moment) :=
  match t.step with
  | .work m => t.before.worker.send?.map (·, m)
  | .send i m => (t.before.sends[i]?).map (·, m)
  | _ => none

/-- The pass over the spool that a step takes further, and the moment at which it does. -/
def pass? (t : Transition) : Option (Replay × Moment) :=
  match t.step with
  | .work m => t.before.worker.pass?.map (·, m)
  | .pass i m => (t.before.passes[i]?).map (·, m)
  | _ => none

/-- The moment at which a step meets the collector or the file system. -/
def moment? (t : Transition) : Option Moment :=
  match t.step with
  | .work m => some m
  | .pass _ m => some m
  | .send _ m => some m
  | _ => none

/-- The payload that the collector receives and accepts in a step. -/
def accepted? (t : Transition) : Option Bytes :=
  match t.moment? with
  | some m =>
    match m.reply.result with
    | .ok _ => t.before.request? t.step
    | .error _ => none
  | none => none

/-- The payload of the batch that is handed over for sending. No events make no batch. -/
def handed? (t : Transition) : Option Bytes :=
  match t.step with
  | .notice _ _ =>
    if t.before.worker.isChoosing then t.after.worker.send?.bind Send.payload? else none
  | .startSend now events =>
    if events.isEmpty then none else some (t.before.flusher.payload now events)
  | _ => none

/-- The payload of the batch that is at its end with a step. -/
def returned? (t : Transition) : Option Bytes :=
  match t.send? with
  | some (b, m) => if (b.step m t.before.flusher).1.isDone then b.payload? else none
  | none => none

/-- The payload that the spool refuses to store in a step. -/
def rejected? (t : Transition) : Option Bytes :=
  match t.send? with
  | some (.storing p, m) =>
    match (t.before.flusher.spool.enqueue m.clock.nanos p m.disk).1 with
    | .ok _ => none
    | .error _ => some p
  | _ => none

/-- A batch makes room for another one that is to be stored. -/
def Evicts (t : Transition) (b : Spool.StoredBatch) : Prop :=
  b ∉ t.after.stored ∧
    ∃ p m, t.send? = some (.storing p, m) ∧ b ∈ t.before.flusher.spool.evictions p.length m.disk

/-- The batch from the spool that the collector accepts in a step, byte for byte. -/
def replayed? (t : Transition) : Option Spool.StoredBatch :=
  match t.pass? with
  | some (.sending b _ _, _) => if t.accepted? = some b.content then some b else none
  | _ => none

/-- The name of the batch that a step removes from the spool as delivered. -/
def removed? (t : Transition) : Option Spool.Name :=
  match t.pass? with
  | some (.removing name _, _) => some name
  | _ => none

end Transition

/-! ## Batches on their way -/

theorem System.pending_eq (s : System) :
    s.pending = (s.worker.send?.bind Send.payload?).toList ++ s.sends.filterMap Send.payload? := by
  rw [pending, sending, List.filterMap_append]
  cases s.worker.send? with
  | none => rfl
  | some b => cases hb : b.payload? <;> simp [hb]

theorem filterMap_cons_eq_append {α β : Type} (f : α → Option β) (a : α) (l : List α) :
    (a :: l).filterMap f = (f a).toList ++ l.filterMap f := by
  rw [List.filterMap_cons]
  cases f a <;> rfl

/-- When a batch takes the place of another one, the others stay on their way. -/
theorem perm_filterMap_set {bs : List Send} {i : Nat} {b c : Send} {ended : List Bytes}
    (h : bs[i]? = some b) (hended : b.payload?.toList = ended ++ c.payload?.toList) :
    (bs.filterMap Send.payload?).Perm (ended ++ (bs.set i c).filterMap Send.payload?) := by
  obtain ⟨hi, rfl⟩ := List.getElem?_eq_some_iff.mp h
  have hbefore := (List.getElem_cons_eraseIdx_perm hi).symm.filterMap Send.payload?
  have hafter := (List.set_perm_cons_eraseIdx hi c).filterMap Send.payload?
  rw [filterMap_cons_eq_append] at hbefore hafter
  rw [hended, List.append_assoc] at hbefore
  exact hbefore.trans (hafter.symm.append_left ended)

/-! ## Inversion of steps -/

namespace Transition

/-- A step takes one batch further, or one pass over the spool, or it has nothing to do with the spool. -/
theorem cases (t : Transition) :
    (∃ b m, t.send? = some (b, m) ∧ t.pass? = none ∧
        t.after.flusher = (b.step m t.before.flusher).2) ∨
      (∃ r m, t.send? = none ∧ t.pass? = some (r, m) ∧
        t.after.flusher = (r.step m t.before.flusher).2) ∨
      (t.send? = none ∧ t.pass? = none ∧ t.after.flusher.spool = t.before.flusher.spool ∧
        t.after.droppedBatches = t.before.droppedBatches) := by
  obtain ⟨s, a⟩ := t
  cases a with
  | ingest e =>
    obtain ⟨hspool, hdropped⟩ := s.flusher.spool_ingest e
    exact Or.inr (Or.inr ⟨rfl, rfl, hspool, hdropped⟩)
  | sendersClosed => exact Or.inr (Or.inr ⟨rfl, rfl, rfl, rfl⟩)
  | startPass => exact Or.inr (Or.inr ⟨rfl, rfl, rfl, rfl⟩)
  | notice now h =>
    -- at most the inbox changes
    refine Or.inr (Or.inr ⟨rfl, rfl, ?_⟩)
    rw [System.droppedBatches, System.droppedBatches, after, System.step]
    split
    · simp only [Worker.notice_snd, and_self]
    · exact ⟨rfl, rfl⟩
  | startSend now events =>
    refine Or.inr (Or.inr ⟨rfl, rfl, ?_⟩)
    rw [System.droppedBatches, System.droppedBatches, after, System.step]
    split <;> exact ⟨rfl, rfl⟩
  | work m =>
    rcases s.worker.activity_cases with
      ⟨b, a, hw, hsend, hpass⟩ | ⟨r, hw, hsend, hpass⟩ | ⟨hw, hsend, hpass⟩
    · refine Or.inl ⟨b, m, by simp [send?, hsend], by simp [pass?, hpass], ?_⟩
      rw [after, System.step, Worker.step_of_sending hw]
    · refine Or.inr (Or.inl ⟨r, m, by simp [send?, hsend], by simp [pass?, hpass], ?_⟩)
      rw [after, System.step, Worker.step_of_replaying hw]
    · refine Or.inr (Or.inr ⟨by simp [send?, hsend], by simp [pass?, hpass], ?_⟩)
      rw [System.droppedBatches, System.droppedBatches, after, System.step, Worker.step_of_idle hw]
      exact ⟨rfl, rfl⟩
  | send i m =>
    cases hi : s.sends[i]? with
    | some b =>
      exact Or.inl ⟨b, m, by simp [send?, hi], rfl, by simp [after, System.step, hi]⟩
    | none =>
      refine Or.inr (Or.inr ⟨by simp [send?, hi], rfl, ?_⟩)
      simp [after, System.step, hi]
  | pass i m =>
    cases hi : s.passes[i]? with
    | some r =>
      exact Or.inr (Or.inl ⟨r, m, rfl, by simp [pass?, hi], by simp [after, System.step, hi]⟩)
    | none =>
      refine Or.inr (Or.inr ⟨rfl, by simp [pass?, hi], ?_⟩)
      simp [after, System.step, hi]

/-- A step that takes a batch further changes the flusher as the batch does. -/
theorem flusher_of_send? {t : Transition} {b : Send} {m : Moment} (h : t.send? = some (b, m)) :
    t.after.flusher = (b.step m t.before.flusher).2 := by
  rcases t.cases with ⟨c, m', hsend, -, heq⟩ | ⟨-, -, hsend, -⟩ | ⟨hsend, -⟩
  · obtain ⟨rfl, rfl⟩ := Prod.mk.inj (Option.some.inj (h.symm.trans hsend))
    exact heq
  · exact absurd (h.symm.trans hsend) (by simp)
  · exact absurd (h.symm.trans hsend) (by simp)

/-- A batch that is taken further is the worker's own one, or one that is sent directly. -/
theorem send?_eq_some {t : Transition} {b : Send} {m : Moment} (h : t.send? = some (b, m)) :
    (t.step = .work m ∧ t.before.worker.send? = some b) ∨
      ∃ i, t.step = .send i m ∧ t.before.sends[i]? = some b := by
  obtain ⟨s, a⟩ := t
  cases a with
  | work m' =>
    obtain ⟨b', hb, heq⟩ := Option.map_eq_some_iff.mp h
    obtain ⟨rfl, rfl⟩ := Prod.mk.inj heq
    exact Or.inl ⟨rfl, hb⟩
  | send i m' =>
    obtain ⟨b', hb, heq⟩ := Option.map_eq_some_iff.mp h
    obtain ⟨rfl, rfl⟩ := Prod.mk.inj heq
    exact Or.inr ⟨i, rfl, hb⟩
  | _ => exact absurd h (by simp [send?])

/-- A pass that is taken further is the worker's own one, or one that was called for. -/
theorem pass?_eq_some {t : Transition} {r : Replay} {m : Moment} (h : t.pass? = some (r, m)) :
    (t.step = .work m ∧ t.before.worker.pass? = some r) ∨
      ∃ i, t.step = .pass i m ∧ t.before.passes[i]? = some r := by
  obtain ⟨s, a⟩ := t
  cases a with
  | work m' =>
    obtain ⟨r', hr, heq⟩ := Option.map_eq_some_iff.mp h
    obtain ⟨rfl, rfl⟩ := Prod.mk.inj heq
    exact Or.inl ⟨rfl, hr⟩
  | pass i m' =>
    obtain ⟨r', hr, heq⟩ := Option.map_eq_some_iff.mp h
    obtain ⟨rfl, rfl⟩ := Prod.mk.inj heq
    exact Or.inr ⟨i, rfl, hr⟩
  | _ => exact absurd h (by simp [pass?])

/-- A batch that is taken further was handed over for sending. -/
theorem mem_sending {t : Transition} {b : Send} {m : Moment} (h : t.send? = some (b, m)) :
    b ∈ t.before.sending := by
  unfold System.sending
  rw [List.mem_append, Option.mem_toList]
  rcases send?_eq_some h with ⟨-, hb⟩ | ⟨i, -, hb⟩
  · exact Or.inl hb
  · exact Or.inr (List.mem_of_getElem? hb)

/-- A pass that is taken further is running. -/
theorem mem_running {t : Transition} {r : Replay} {m : Moment} (h : t.pass? = some (r, m)) :
    r ∈ t.before.running := by
  unfold System.running
  rw [List.mem_append, Option.mem_toList]
  rcases pass?_eq_some h with ⟨-, hr⟩ | ⟨i, -, hr⟩
  · exact Or.inl hr
  · exact Or.inr (List.mem_of_getElem? hr)

/-- A pass that is running after a step was running before it, or starts, or was taken further. -/
theorem mem_running_after {t : Transition} {r : Replay} (h : r ∈ t.after.running) :
    r ∈ t.before.running ∨ r = .starting ∨
      ∃ r₀ m, t.pass? = some (r₀, m) ∧ r = (r₀.step m t.before.flusher).1 := by
  obtain ⟨s, a⟩ := t
  rw [System.running, List.mem_append, Option.mem_toList] at h ⊢
  cases a with
  | ingest e => exact Or.inl h
  | sendersClosed => exact Or.inl h
  | startPass =>
    rcases h with h | h
    · exact Or.inl (Or.inl h)
    · rcases List.mem_append.mp h with h | h
      · exact Or.inl (Or.inr h)
      · exact Or.inr (Or.inl (List.mem_singleton.mp h))
  | startSend now events =>
    rw [after, System.step] at h
    split at h <;> exact Or.inl h
  | send i m =>
    rw [after, System.step] at h
    split at h <;> exact Or.inl h
  | notice now what =>
    rw [after, System.step] at h
    split at h
    · rcases h with h | h
      · rcases Worker.pass?_notice h with h | h
        · exact Or.inr (Or.inl h)
        · exact Or.inl (Or.inl h)
      · exact Or.inl (Or.inr h)
    · exact Or.inl h
  | work m =>
    rcases h with h | h
    · rcases Worker.pass?_step h with h | ⟨r₀, hr₀, h⟩
      · exact Or.inr (Or.inl h)
      · exact Or.inr (Or.inr ⟨r₀, m, by simp [pass?, hr₀], h⟩)
    · exact Or.inl (Or.inr h)
  | pass i m =>
    rw [after, System.step] at h
    split at h
    · next r₀ hr₀ =>
      rcases h with h | h
      · exact Or.inl (Or.inl h)
      · rcases List.mem_or_eq_of_mem_set h with h | h
        · exact Or.inl (Or.inr h)
        · exact Or.inr (Or.inr ⟨r₀, m, by simp [pass?, hr₀], h⟩)
    · exact Or.inl h

/-- What is on its way or is handed over has ended after a step, or is still on its way. -/
theorem perm_pending (t : Transition) :
    (t.handed?.toList ++ t.before.pending).Perm (t.returned?.toList ++ t.after.pending) := by
  obtain ⟨s, a⟩ := t
  rw [System.pending_eq, System.pending_eq, after]
  cases a with
  | ingest e => exact List.Perm.refl _
  | sendersClosed => exact List.Perm.refl _
  | startPass => exact List.Perm.refl _
  | pass i m =>
    rw [System.step]
    split <;> exact List.Perm.refl _
  | startSend now events =>
    rw [System.step, handed?]
    by_cases hevents : events.isEmpty = true
    · simp only [if_pos hevents, List.filterMap_append]
      rw [show [Send.done .delivered].filterMap Send.payload? = [] from rfl, List.append_nil]
      exact List.Perm.refl _
    · simp only [if_neg hevents, List.filterMap_append]
      exact List.perm_append_comm.trans (List.Perm.of_eq (List.append_assoc ..))
  | notice now what =>
    rw [System.step, handed?]
    by_cases hw : s.worker.isChoosing = true
    · have hnone : s.worker.send? = none := by rw [Worker.send?, Worker.isChoosing_iff.mp hw]
      simp only [if_pos hw, hnone, after, System.step]
      exact List.Perm.refl _
    · simp only [if_neg hw]
      exact List.Perm.refl _
  | work m =>
    rw [System.step, returned?, send?]
    cases hb : s.worker.send? with
    | none =>
      simp only [Worker.send?_step_of_none hb]
      exact List.Perm.refl _
    | some b =>
      simp only [Option.bind_some, Option.map_some]
      rw [Worker.toList_payload?_step hb m s.flusher, List.append_assoc]
      exact List.Perm.refl _
  | send i m =>
    rw [System.step, returned?, send?]
    cases hi : s.sends[i]? with
    | none =>
      simp only [hi]
      exact List.Perm.refl _
    | some b =>
      have hset := perm_filterMap_set hi (b.moves_step m s.flusher).toList_payload?
      simp only [hi, Option.map_some]
      refine (hset.append_left _).trans ?_
      rw [← List.append_assoc, ← List.append_assoc]
      exact List.perm_append_comm.append_right _

/-- The step of a batch makes the request that the batch is at. -/
theorem accepted?_of_send? {t : Transition} {b : Send} {m : Moment} (h : t.send? = some (b, m))
    (hok : m.reply.result = .ok ()) : t.accepted? = b.request? := by
  unfold accepted? moment?
  rcases send?_eq_some h with ⟨hstep, hb⟩ | ⟨i, hstep, hb⟩
  · obtain ⟨a, hw⟩ := Worker.activity_of_send? hb
    simp only [hstep, hok]
    show t.before.worker.request? m.cancelled = _
    rw [Worker.request?, hw]
  · simp only [hstep, hok]
    show (t.before.sends[i]?).bind Send.request? = _
    rw [hb, Option.bind_some]

/-- The step of a pass makes the request that the pass is at. -/
theorem accepted?_of_pass? {t : Transition} {r : Replay} {m : Moment} (h : t.pass? = some (r, m))
    (hok : m.reply.result = .ok ()) : t.accepted? = r.request? m.cancelled := by
  unfold accepted? moment?
  rcases pass?_eq_some h with ⟨hstep, hr⟩ | ⟨i, hstep, hr⟩
  · have hw := Worker.activity_of_pass? hr
    simp only [hstep, hok]
    show t.before.worker.request? m.cancelled = _
    rw [Worker.request?, hw]
  · simp only [hstep, hok]
    show (t.before.passes[i]?).bind (Replay.request? m.cancelled) = _
    rw [hr, Option.bind_some]

/-- The payload that is handed over is the one of some events. -/
theorem exists_payload_of_handed? {t : Transition} {p : Bytes} (h : t.handed? = some p) :
    ∃ now events, p = t.before.flusher.payload now events := by
  obtain ⟨s, a⟩ := t
  cases a with
  | startSend now events =>
    rw [handed?] at h
    dsimp only at h
    split at h
    · exact absurd h (by simp)
    · exact ⟨now, events, (Option.some.inj h).symm⟩
  | notice now what =>
    rw [handed?, after, System.step] at h
    dsimp only at h
    split at h
    · next hw =>
      rcases s.worker.notice_cases s.flusher now what with
        ⟨-, a, heq⟩ | ⟨-, heq | heq⟩ | ⟨-, heq⟩ <;> rw [heq] at h
      · exact ⟨now, _, (Option.some.inj h).symm⟩
      · exact absurd h (by simp [Worker.send?])
      · exact absurd h (by simp [Worker.send?])
      · have hwait := Worker.isChoosing_iff.mp hw
        exact absurd h (by simp [Worker.send?, hwait])
    · exact absurd h (by simp)
  | _ => exact absurd h (by simp [handed?])

end Transition

/-- What grows by one with some of the steps grows by their number in a run. -/
theorem eq_add_length_filterMap {α : Type} {count : System → Nat} {counts? : Transition → Option α}
    (h : ∀ t : Transition, count t.after = count t.before + (counts? t).toList.length) (s : System)
    (ss : List Step) :
    count (s.steps ss) = count s + ((s.history ss).filterMap counts?).length := by
  induction ss generalizing s with
  | nil => rfl
  | cons a ss ih =>
    have hstep : count (s.step a) = count s + (counts? ⟨s, a⟩).toList.length := h ⟨s, a⟩
    rw [System.history, filterMap_cons_eq_append, List.length_append, System.steps_cons, ih, hstep,
      Nat.add_assoc]

end RouterTelemetry.Delivery
