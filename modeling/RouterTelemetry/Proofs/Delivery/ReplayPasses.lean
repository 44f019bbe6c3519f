import RouterTelemetry.Proofs.Delivery.AtLeastOnce
import RouterTelemetry.Proofs.Delivery.ReplayLock
/-!
# Each stored batch is replayed once

Passes over the spool, while batches are sent and stored and make room for each other. What the collector has
accepted from the spool it is not sent again. Main statements:

* `Transition.replayed_append_removing` : a batch that is replayed is removed next;
* `Spent.after` : what was replayed under a name is not replayed again until a batch is stored under it anew;
* `exclusive` : what a whole run says about its passes.

Nothing is assumed of the directory at the start, nor of the file system: that a batch cannot be removed is one of
the things that can happen.
-/

namespace RouterTelemetry.Delivery

open Text (Bytes)
open Spool (StoredBatch)

/-! ## What is replayed and what is removed -/

namespace Transition

variable {t : Transition} {r : Replay} {m : Moment}

theorem removed?_of_pass? (h : t.pass? = some (r, m)) : t.removed? = r.removing? := by
  rw [removed?, h]
  cases r <;> rfl

/-- A pass sends a batch that is replayed, and goes on to remove it. -/
theorem step_of_replayed? (h : t.pass? = some (r, m)) {b : StoredBatch} (hb : t.replayed? = some b) :
    ∃ failed n, r = .sending b failed n ∧ (r.step m t.before.flusher).1 = .removing b.name n := by
  obtain ⟨⟨failed, n, m', hpass⟩, haccepted⟩ := replayed?_eq_some.mp hb
  obtain ⟨rfl, rfl⟩ := pass?_inj h hpass
  refine ⟨failed, n, rfl, ?_⟩
  have hmoment : t.moment? = some m := by
    rcases pass?_eq_some hpass with ⟨hstep, -⟩ | ⟨i, hstep, -⟩ <;> rw [moment?, hstep]
  have hmove := (Replay.sending b failed n).moves_step m t.before.flusher
  generalize (Replay.sending b failed n).step m t.before.flusher = next at hmove
  cases hmove with
  | accepted b failed n live ok => rfl
  | again b failed n e live error more => exact absurd haccepted (by simp [accepted?, hmoment, error])
  | gaveUp b failed n e live error last => exact absurd haccepted (by simp [accepted?, hmoment, error])
  | cancelledSending b failed n seen =>
    cases hreply : m.reply.result with
    | error e => exact absurd haccepted (by simp [accepted?, hmoment, hreply])
    | ok _ =>
      rw [accepted?_of_pass? hpass hreply, seen] at haccepted
      exact absurd haccepted (by simp [Replay.request?])

/-- The batch that is replayed is the one that the pass then removes. -/
theorem map_name_replayed? (h : t.pass? = some (r, m)) :
    t.replayed?.map StoredBatch.name = (r.step m t.before.flusher).1.removing? := by
  cases hb : t.replayed? with
  | some b =>
    obtain ⟨failed, n, -, hnext⟩ := step_of_replayed? h hb
    rw [hnext]
    rfl
  | none =>
    cases hnext : (r.step m t.before.flusher).1 with
    | removing name n =>
      obtain ⟨b, hreplayed, -⟩ := replayed?_of_removing h hnext
      exact absurd (hb.symm.trans hreplayed) (by simp)
    | _ => rfl

/-- Nothing is replayed or removed but by a pass in progress. -/
theorem untouched (hidle : ∀ r m, t.pass? = some (r, m) → r.inProgress = false) :
    t.replayed? = none ∧ t.removed? = none ∧ t.acked? = none := by
  cases hpass : t.pass? with
  | none => exact ⟨by rw [replayed?, hpass], by rw [removed?, hpass], by rw [acked?, hpass]; rfl⟩
  | some next =>
    obtain ⟨r, m⟩ := next
    have hr := hidle r m hpass
    rw [replayed?, removed?_of_pass? hpass, acked?_of_pass? hpass, hpass]
    cases r with
    | starting => exact ⟨rfl, rfl, rfl⟩
    | «over» n => exact ⟨rfl, rfl, rfl⟩
    | _ => exact Bool.noConfusion hr

/-- A batch that is replayed is removed next, before any other one is replayed. -/
theorem replayed_append_removing (h : t.before.Locked) :
    t.before.inProgress.filterMap Replay.removing? ++ (t.replayed?.map StoredBatch.name).toList =
      t.removed?.toList ++ t.after.inProgress.filterMap Replay.removing? := by
  cases turns h with
  | rests same lock idle result =>
    obtain ⟨hreplayed, hremoved, -⟩ := untouched idle
    rw [same, hreplayed, hremoved]
    exact List.append_nil _
  | starts m pass before after lock result =>
    rw [map_name_replayed? pass, removed?_of_pass? pass, before, after]
    have hnext : (Replay.starting.step m t.before.flusher).1.removing? = none := by
      rw [Replay.step]
      split <;> rfl
    rw [hnext]
    rfl
  | goesOn r m pass before after lock result =>
    rw [map_name_replayed? pass, removed?_of_pass? pass, before, after, filterMap_cons_eq_append,
      filterMap_cons_eq_append]
    simp
  | ends r m pass before after last result =>
    rw [map_name_replayed? pass, removed?_of_pass? pass, before, after, last, filterMap_cons_eq_append]
    simp [Replay.removing?]

/-- What was returned and what the pass in progress has delivered grows with each batch that is removed. -/
theorem sum_delivered (h : t.before.Locked) :
    t.result?.toList.sum + (t.after.inProgress.map Replay.delivered).sum =
      (t.before.inProgress.map Replay.delivered).sum + t.acked?.toList.length := by
  cases turns h with
  | rests same lock idle result =>
    rw [same, result, (untouched idle).2.2, Nat.zero_add]
    rfl
  | starts m pass before after lock result =>
    rw [acked?_of_pass? pass, before, after, result]
    rfl
  | goesOn r m pass before after lock result =>
    have hdelivered := (r.moves_step m t.before.flusher).delivered_eq (System.inProgress_of_eq before)
    rw [acked?_of_pass? pass, before, after, result, List.map_singleton, List.map_singleton, hdelivered]
    simp
  | ends r m pass before after last result =>
    have hdelivered := (r.moves_step m t.before.flusher).delivered_eq (System.inProgress_of_eq before)
    rw [last] at hdelivered
    rw [acked?_of_pass? pass, before, after, result, List.map_singleton]
    simp only [Option.toList_some, List.sum_singleton, List.map_nil, List.sum_nil, Nat.add_zero]
    exact hdelivered

end Transition

/-- The first step of a history is taken at the start, and the others follow it. -/
theorem System.history_eq_first {s : System} {ss : List Step} {t : Transition}
    {later : List Transition} (h : s.history ss = t :: later) :
    t.before = s ∧ ∃ ss', t.after.history ss' = later := by
  cases ss with
  | nil => exact absurd h (by simp [history])
  | cons a ss =>
    obtain ⟨rfl, htail⟩ := List.cons.inj h
    exact ⟨rfl, ss, htail⟩

/-! ## A batch that was replayed -/

/-- A step stores a batch under a name. -/
def Transition.Stores (t : Transition) (n : Spool.Name) : Prop :=
  ∃ p m, t.send? = some (.storing p, m) ∧ p ≠ [] ∧
    (t.before.flusher.spool.enqueue m.clock.nanos p m.disk).1 = .ok () ∧
    n = Spool.batchName (t.before.flusher.spool.nextNanos m.clock.nanos)

/-- What was stored under a name was replayed, and no pass sends it any more: it is gone, or about to be
removed. -/
structure Spent (n : Spool.Name) (s : System) : Prop where
  unsent : ∀ b failed k, .sending b failed k ∈ s.inProgress → b.name ≠ n
  gone : s.flusher.spool.Lacks n ∨ ∃ k, s.inProgress = [.removing n k]

namespace Transition

variable {t : Transition} {n : Spool.Name}

/-- A step that takes a pass further changes the flusher as the pass does. -/
theorem flusher_of_pass? {r : Replay} {m : Moment} (h : t.pass? = some (r, m)) :
    t.after.flusher = (r.step m t.before.flusher).2 := by
  rcases t.cases with ⟨b, m', -, hpass, -⟩ | ⟨r', m', -, hpass, heq⟩ | ⟨-, hpass, -⟩
  · exact absurd (h.symm.trans hpass) (by simp)
  · obtain ⟨rfl, rfl⟩ := pass?_inj h hpass
    exact heq
  · exact absurd (h.symm.trans hpass) (by simp)

/-- A name under which nothing is stored stays free until a batch is stored under it. -/
theorem lacks_after (h : t.before.flusher.spool.Lacks n) (hstores : ¬ t.Stores n) :
    t.after.flusher.spool.Lacks n := by
  rcases t.spool_cases with ⟨p, m, hsend, heq⟩ | ⟨name, disk, -, heq⟩ | heq
  · rw [heq]
    by_cases hp : p = []
    · subst hp
      exact h
    · exact h.enqueue _ p _ fun hok hname => hstores ⟨p, m, hsend, hp, hok, hname⟩
  · rw [heq]
    exact h.ack name disk
  · rwa [heq]

/-- A batch that is removed as delivered is not there any more. -/
theorem lacks_of_acked? (h : t.acked? = some n) : t.after.flusher.spool.Lacks n := by
  obtain ⟨⟨r, m⟩, hpass, hacks⟩ := Option.bind_eq_some_iff.mp h
  cases r with
  | removing name k =>
    rw [flusher_of_pass? hpass, Replay.step]
    rcases hack : t.before.flusher.spool.ack name m.disk with ⟨e | _, spool⟩
    · exact absurd hacks (by simp [Replay.acks?, hack])
    · obtain rfl : name = n := by simpa [Replay.acks?, hack] using hacks
      have hgone : (t.before.flusher.spool.ack name m.disk).2.Lacks name :=
        Spool.lacks_ack (by rw [hack])
      rwa [hack] at hgone
  | _ => exact absurd hacks (by simp [Replay.acks?])

end Transition

namespace Spent

variable {t : Transition} {n : Spool.Name}

/-- Once it was replayed a batch is about to be removed. -/
theorem of_replayed? (h : t.before.Locked) {b : StoredBatch} (hb : t.replayed? = some b) :
    Spent b.name t.after := by
  obtain ⟨⟨failed, k, m, hpass⟩, -⟩ := Transition.replayed?_eq_some.mp hb
  obtain ⟨_, _, -, hnext⟩ := Transition.step_of_replayed? hpass hb
  cases Transition.turns h with
  | rests same lock idle result => exact Bool.noConfusion (idle _ m hpass)
  | starts m' pass before after lock result =>
    exact absurd (hpass.symm.trans pass) (by simp)
  | goesOn r m' pass before after lock result =>
    obtain ⟨rfl, rfl⟩ := Transition.pass?_inj hpass pass
    rw [hnext] at after
    refine ⟨fun c failed' k' hc => ?_, Or.inr ⟨_, after⟩⟩
    rw [after] at hc
    exact Replay.noConfusion (List.mem_singleton.mp hc)
  | ends r m' pass before after last result =>
    obtain ⟨rfl, rfl⟩ := Transition.pass?_inj hpass pass
    exact absurd (hnext.symm.trans last) (by simp)

/-- What is spent is not replayed. -/
theorem name_ne (h : Spent n t.before) {b : StoredBatch} (hb : t.replayed? = some b) :
    b.name ≠ n := by
  obtain ⟨⟨failed, k, m, hpass⟩, -⟩ := Transition.replayed?_eq_some.mp hb
  exact h.unsent b failed k (List.mem_filter.mpr ⟨Transition.mem_running hpass, rfl⟩)

theorem gone_after (h : Spent n t.before) (hlocked : t.before.Locked) (hstores : ¬ t.Stores n)
    (hacked : t.removed? = some n → t.acked? = some n) :
    t.after.flusher.spool.Lacks n ∨ ∃ k, t.after.inProgress = [.removing n k] := by
  rcases h.gone with hlacks | ⟨k, hremoving⟩
  · exact Or.inl (Transition.lacks_after hlacks hstores)
  · have hgone {r : Replay} {m : Moment} (hpass : t.pass? = some (r, m))
        (hbefore : t.before.inProgress = [r]) : t.after.flusher.spool.Lacks n := by
      obtain rfl := List.singleton_inj.mp (hbefore.symm.trans hremoving)
      exact Transition.lacks_of_acked? (hacked (Transition.removed?_of_pass? hpass))
    cases Transition.turns hlocked with
    | rests same lock idle result => exact Or.inr ⟨k, same.trans hremoving⟩
    | starts m pass before after lock result => exact absurd (before.symm.trans hremoving) (by simp)
    | goesOn r m pass before after lock result => exact Or.inl (hgone pass before)
    | ends r m pass before after last result => exact Or.inl (hgone pass before)

theorem unsent_after (h : Spent n t.before) (hlocked : t.before.Locked) (b : StoredBatch)
    (failed k : Nat) (hb : .sending b failed k ∈ t.after.inProgress) : b.name ≠ n := by
  cases Transition.turns hlocked with
  | rests same lock idle result => exact h.unsent b failed k (same ▸ hb)
  | starts m pass before after lock result =>
    rw [after] at hb
    exact Replay.noConfusion (List.mem_singleton.mp hb)
  | goesOn r m pass before after lock result =>
    rw [after] at hb
    have hnext := (List.mem_singleton.mp hb).symm
    have hmove := r.moves_step m t.before.flusher
    rcases hmove.of_sending hnext with hfound | ⟨failed', rfl⟩
    · -- a batch that is found is stored, and a pass that removes one finds none
      rcases h.gone with hlacks | ⟨k', hremoving⟩
      · exact hlacks b (Spool.mem_of_dequeueOldest hfound)
      · obtain rfl := List.singleton_inj.mp (before.symm.trans hremoving)
        exact absurd hnext (hmove.ne_sending b failed k)
    · exact h.unsent b failed' k (by rw [before]; exact List.mem_singleton_self _)
  | ends r m pass before after last result =>
    rw [after] at hb
    exact absurd hb List.not_mem_nil

/-- What is spent stays so until a batch is stored under its name, provided that it can be removed. -/
theorem after (h : Spent n t.before) (hlocked : t.before.Locked) (hstores : ¬ t.Stores n)
    (hacked : t.removed? = some n → t.acked? = some n) : Spent n t.after :=
  ⟨h.unsent_after hlocked, h.gone_after hlocked hstores hacked⟩

/-- Between two batches that are replayed under one name another one is stored under it, or the first one
could not be removed. -/
theorem exists_between {s : System} (h : Spent n s) (hlocked : s.Locked) {ss : List Step}
    {mid later : List Transition} {u : Transition} (hhistory : s.history ss = mid ++ u :: later)
    {b : StoredBatch} (hb : u.replayed? = some b) (hn : b.name = n) :
    ∃ v ∈ mid, v.Stores n ∨ (v.removed? = some n ∧ v.acked? = none) := by
  induction mid generalizing s ss with
  | nil =>
    obtain ⟨rfl, -⟩ := System.history_eq_first hhistory
    exact absurd hn (h.name_ne hb)
  | cons v mid ih =>
    obtain ⟨rfl, ss', htail⟩ := System.history_eq_first hhistory
    by_cases hstores : v.Stores n
    · exact ⟨v, List.mem_cons_self .., Or.inl hstores⟩
    by_cases hstuck : v.removed? = some n ∧ v.acked? = none
    · exact ⟨v, List.mem_cons_self .., Or.inr hstuck⟩
    have hacked : v.removed? = some n → v.acked? = some n := by
      intro hremoved
      obtain ⟨k, m, hpass⟩ := Transition.removed?_eq_some.mp hremoved
      have heq := Transition.acked?_of_pass? hpass
      rw [Replay.acks?] at heq
      split at heq
      · exact heq
      · exact absurd ⟨hremoved, heq⟩ hstuck
    obtain ⟨w, hw, hcase⟩ := ih (h.after hlocked hstores hacked)
      (Transition.locked_after hlocked) htail
    exact ⟨w, List.mem_cons_of_mem _ hw, hcase⟩

end Spent

/-! ## Whole runs -/

namespace System.Locked

variable {s : System}

theorem of_mem_history (h : s.Locked) {ss : List Step} {t : Transition} (ht : t ∈ s.history ss) :
    t.before.Locked := by
  obtain ⟨prior, later, heq⟩ := List.append_of_mem ht
  obtain ⟨ss₁, -, -, -, hbefore, -⟩ := System.history_eq_cons heq
  exact hbefore ▸ h.steps ss₁

/-- What is replayed in a run is removed in the same order, but for the batch that is about to be removed. -/
theorem replayed_eq (h : s.Locked) (ss : List Step) :
    s.inProgress.filterMap Replay.removing? ++
        ((s.history ss).filterMap Transition.replayed?).map StoredBatch.name =
      (s.history ss).filterMap Transition.removed? ++
        (s.steps ss).inProgress.filterMap Replay.removing? := by
  induction ss generalizing s with
  | nil => exact List.append_nil _
  | cons a ss ih =>
    have hstep := Transition.replayed_append_removing (t := ⟨s, a⟩) h
    have hnext := ih (Transition.locked_after (t := ⟨s, a⟩) h)
    rw [history, filterMap_cons_eq_append, filterMap_cons_eq_append, List.map_append,
      ← Option.toList_map, ← List.append_assoc, hstep, List.append_assoc, List.append_assoc]
    exact congrArg _ hnext

/-- Each batch that is removed is counted by the pass that removes it. -/
theorem sum_results (h : s.Locked) (ss : List Step) :
    ((s.history ss).filterMap Transition.result?).sum +
        ((s.steps ss).inProgress.map Replay.delivered).sum =
      (s.inProgress.map Replay.delivered).sum +
        ((s.history ss).filterMap Transition.acked?).length := by
  induction ss generalizing s with
  | nil => exact Nat.zero_add _
  | cons a ss ih =>
    have hstep : _ + ((s.step a).inProgress.map Replay.delivered).sum =
        (s.inProgress.map Replay.delivered).sum + _ := Transition.sum_delivered (t := ⟨s, a⟩) h
    have hnext : _ = ((s.step a).inProgress.map Replay.delivered).sum + _ :=
      ih (Transition.locked_after (t := ⟨s, a⟩) h)
    rw [history, filterMap_cons_eq_append, filterMap_cons_eq_append, List.sum_append,
      List.length_append, System.steps_cons]
    omega

/-- A pass returns the number of batches that were removed while it was in progress. -/
theorem result_eq (h : s.Locked) {r : Replay} (hone : s.inProgress = [r]) {ss : List Step}
    {mid later : List Transition} {u : Transition} (hhistory : s.history ss = mid ++ u :: later)
    (hgoing : ∀ v ∈ mid, v.after.inProgress ≠ []) (hends : u.after.inProgress = []) :
    u.result? = some (r.delivered + (mid.filterMap Transition.acked?).length) := by
  induction mid generalizing s r ss with
  | nil =>
    obtain ⟨rfl, -⟩ := System.history_eq_first hhistory
    cases Transition.turns h with
    | rests same lock idle result => exact absurd (hends.symm.trans (same.trans hone)) (by simp)
    | starts m pass before after lock result => exact absurd (before.symm.trans hone) (by simp)
    | goesOn r' m pass before after lock result => exact absurd (hends.symm.trans after) (by simp)
    | ends r' m pass before after last result =>
      obtain rfl := List.singleton_inj.mp (before.symm.trans hone)
      exact result
  | cons v mid ih =>
    obtain ⟨rfl, ss', htail⟩ := System.history_eq_first hhistory
    have hlocked := Transition.locked_after h
    have hrest : ∀ v ∈ mid, v.after.inProgress ≠ [] :=
      fun v hv => hgoing v (List.mem_cons_of_mem _ hv)
    rw [filterMap_cons_eq_append, List.length_append]
    cases Transition.turns h with
    | rests same lock idle result =>
      rw [ih hlocked (same.trans hone) htail hrest, (Transition.untouched idle).2.2]
      simp
    | starts m pass before after lock result => exact absurd (before.symm.trans hone) (by simp)
    | goesOn r' m pass before after lock result =>
      obtain rfl := List.singleton_inj.mp (before.symm.trans hone)
      have hdelivered := (r'.moves_step m v.before.flusher).delivered_eq
        (System.inProgress_of_eq before)
      rw [ih hlocked after htail hrest, Transition.acked?_of_pass? pass, hdelivered, Nat.add_assoc]
    | ends r' m pass before after last result =>
      exact absurd after (hgoing v (List.mem_cons_self ..))

end System.Locked

/-- The request of a step that takes a pass further is the one that the pass is at. -/
theorem Transition.request?_of_pass? {t : Transition} {r : Replay} {m : Moment}
    (h : t.pass? = some (r, m)) : t.before.request? t.step = r.request? m.cancelled := by
  rcases pass?_eq_some h with ⟨hstep, hr⟩ | ⟨i, hstep, hr⟩
  · rw [hstep]
    show t.before.worker.request? m.cancelled = _
    rw [Worker.request?, Worker.activity_of_pass? hr]
  · rw [hstep]
    show (t.before.passes[i]?).bind (Replay.request? m.cancelled) = _
    rw [hr, Option.bind_some]

/-- A pass that is called for while another one is in progress comes to nothing. -/
theorem Transition.refused {t : Transition} (h : t.before.Locked) {m : Moment}
    (hpass : t.pass? = some (.starting, m)) (hbusy : t.before.inProgress ≠ []) :
    t.result? = some 0 ∧ t.before.request? t.step = none ∧
      t.after.flusher = t.before.flusher := by
  have hlock : t.before.flusher.replaying = true := by
    rw [← Bool.not_eq_false]
    exact fun hfree => hbusy (h.eq_nil hfree)
  have hstep : Replay.starting.step m t.before.flusher = (.over 0, t.before.flusher) := by
    rw [Replay.step, if_pos hlock]
  refine ⟨?_, ?_, ?_⟩
  · rw [result?_of_pass? hpass, Replay.returns?, hstep]
    rfl
  · rw [request?_of_pass? hpass]
    rfl
  · rw [flusher_of_pass? hpass, hstep]

/-- What holds of any two elements of a list holds pairwise. -/
theorem pairwise_of_forall_split {α : Type} {R : α → α → Prop} {l : List α}
    (h : ∀ prior a mid b later, l = prior ++ a :: (mid ++ b :: later) → R a b) : l.Pairwise R := by
  induction l with
  | nil => exact List.Pairwise.nil
  | cons a l ih =>
    refine List.Pairwise.cons (fun b hb => ?_) (ih fun prior c mid b later heq => ?_)
    · obtain ⟨mid, later, rfl⟩ := List.append_of_mem hb
      exact h [] a mid b later rfl
    · exact h (a :: prior) c mid b later (by rw [heq, List.cons_append])

/-- What was replayed is known wherever the run goes on, if the directory was empty at first. -/
theorem Sound.of_history {f : Flusher} (hplace : f.spool.place = .directory {}) {ss : List Step}
    {prior later : List Transition} {t : Transition}
    (h : System.history { flusher := f } ss = prior ++ t :: later) : Sound prior t.before := by
  have hstart : Sound [] { flusher := f } :=
    ⟨Spool.tidy_empty _ hplace, fun u hu => absurd hu List.not_mem_nil,
      fun r hr => absurd hr List.not_mem_nil, fun p hp => absurd hp List.not_mem_nil⟩
  obtain ⟨ss₁, -, -, hhistory, hbefore, -⟩ := System.history_eq_cons h
  have hsound := hstart.steps ss₁
  rwa [List.nil_append, hhistory, hbefore] at hsound

/-- Between two batches that are replayed under one name another one is stored under it, or the first one
could not be removed. -/
theorem System.Locked.once {s : System} (h : s.Locked) {ss : List Step}
    {prior mid later : List Transition} {t u : Transition} {b c : StoredBatch}
    (hhistory : s.history ss = prior ++ t :: (mid ++ u :: later)) (hb : t.replayed? = some b)
    (hc : u.replayed? = some c) (hname : c.name = b.name) :
    ∃ v ∈ mid, v.Stores b.name ∨ (v.removed? = some b.name ∧ v.acked? = none) := by
  obtain ⟨ss₁, ss₂, -, -, hbefore, hafter, -⟩ := System.history_eq_cons hhistory
  have hlocked : t.before.Locked := hbefore ▸ h.steps ss₁
  exact (Spent.of_replayed? hlocked hb).exists_between (Transition.locked_after hlocked) hafter hc hname

/-- A pass that starts with one step returns the number of batches that were removed until it is over. -/
theorem System.Locked.returned {s : System} (h : s.Locked) {ss : List Step}
    {prior mid later : List Transition} {t u : Transition}
    (hhistory : s.history ss = prior ++ t :: (mid ++ u :: later)) (hfree : t.before.inProgress = [])
    (hstarted : t.after.inProgress ≠ []) (hgoing : ∀ v ∈ mid, v.after.inProgress ≠ [])
    (hends : u.after.inProgress = []) :
    u.result? = some (mid.filterMap Transition.acked?).length := by
  obtain ⟨ss₁, ss₂, -, -, hbefore, hafter, -⟩ := System.history_eq_cons hhistory
  have hlocked : t.before.Locked := hbefore ▸ h.steps ss₁
  cases Transition.turns hlocked with
  | rests same lock idle result => exact absurd (same.trans hfree) hstarted
  | starts m pass before after lock result =>
    rw [(Transition.locked_after hlocked).result_eq after hafter hgoing hends]
    exact congrArg some (Nat.zero_add _)
  | goesOn r m pass before after lock result => exact absurd (hfree.symm.trans before) (by simp)
  | ends r m pass before after last result => exact absurd after hstarted

/-- From an empty directory on, no name is replayed twice if what is to be removed can be. -/
theorem nodup_replayed (f : Flusher) (hplace : f.spool.place = .directory {}) (ss : List Step)
    (hacked : ∀ t ∈ System.history { flusher := f } ss, t.acked? = t.removed?) :
    (((System.history { flusher := f } ss).filterMap Transition.replayed?).map
      StoredBatch.name).Nodup := by
  have hstart : System.Locked { flusher := f } := Nat.zero_le _
  rw [List.Nodup, List.pairwise_map, List.pairwise_filterMap]
  refine pairwise_of_forall_split fun prior t mid u later h b hb c hc hname => ?_
  obtain ⟨v, hv, hcase⟩ := hstart.once h hb hc hname.symm
  obtain ⟨mid₁, mid₂, rfl⟩ := List.append_of_mem hv
  rcases hcase with ⟨p, m, -, -, -, hnew⟩ | ⟨hremoved, hnone⟩
  · -- the name of a batch that was replayed is not given again
    have hsplit : System.history { flusher := f } ss =
        (prior ++ t :: mid₁) ++ v :: (mid₂ ++ u :: later) := by simpa using h
    have hsound := Sound.of_history hplace hsplit
    exact (hsound.known t (by simp) b hb).name_ne m.clock.nanos hnew
  · have hmem : v ∈ System.history { flusher := f } ss := by simp [h]
    exact absurd (hnone.symm.trans ((hacked v hmem).trans hremoved)) (by simp)

/-- What a run says about its passes over the spool. -/
structure Exclusive (s : System) (ss : List Step) : Prop where
  /-- One pass at most is in progress. -/
  alone : (s.steps ss).inProgress.length ≤ 1
  /-- A pass that is called for while one is in progress returns zero at once. It makes no request. -/
  refused : ∀ t ∈ s.history ss, ∀ m, t.pass? = some (.starting, m) → t.before.inProgress ≠ [] →
    t.result? = some 0 ∧ t.before.request? t.step = none ∧ t.after.flusher = t.before.flusher
  /-- Two batches that the collector accepts from the spool under one name are two files: between them another
  one is stored under that name. Only a batch that could not be removed is accepted again. -/
  once : ∀ {prior t mid u later b c}, s.history ss = prior ++ t :: (mid ++ u :: later) →
    t.replayed? = some b → u.replayed? = some c → c.name = b.name →
      ∃ v ∈ mid, v.Stores b.name ∨ (v.removed? = some b.name ∧ v.acked? = none)
  /-- When the directory is empty at first, and what is to be removed can be, no name is accepted twice. -/
  distinct : s.flusher.spool.place = .directory {} →
    (∀ t ∈ s.history ss, t.acked? = t.removed?) →
      (((s.history ss).filterMap Transition.replayed?).map StoredBatch.name).Nodup
  /-- A batch is removed when the collector has accepted it and no other one since, and each batch that was
  accepted is, but for the last one while that is to be removed. -/
  removed : ((s.history ss).filterMap Transition.replayed?).map StoredBatch.name =
    (s.history ss).filterMap Transition.removed? ++
      (s.steps ss).inProgress.filterMap Replay.removing?
  /-- A pass that starts with one step and is over with another one returns how many batches were removed in
  the meantime. -/
  returned : ∀ {prior t mid u later}, s.history ss = prior ++ t :: (mid ++ u :: later) →
    t.before.inProgress = [] → t.after.inProgress ≠ [] → (∀ v ∈ mid, v.after.inProgress ≠ []) →
      u.after.inProgress = [] → u.result? = some (mid.filterMap Transition.acked?).length
  /-- All passes together have returned how many batches were removed, but for those that the pass in progress
  is yet to return. -/
  total : ((s.history ss).filterMap Transition.result?).sum +
      ((s.steps ss).inProgress.map Replay.delivered).sum =
    ((s.history ss).filterMap Transition.acked?).length

/-- **Passes over the spool exclude each other**, whatever is done in whatever order, and deliver each batch
once. -/
theorem exclusive (f : Flusher) (ss : List Step) : Exclusive { flusher := f } ss := by
  have hstart : System.Locked { flusher := f } := Nat.zero_le _
  have htotal := hstart.sum_results ss
  rw [show System.inProgress { flusher := f } = [] from rfl, List.map_nil, List.sum_nil,
    Nat.zero_add] at htotal
  exact ⟨(hstart.steps ss).length_le,
    fun t ht m hpass hbusy => Transition.refused (hstart.of_mem_history ht) hpass hbusy,
    hstart.once, fun hplace hacked => nodup_replayed f hplace ss hacked, hstart.replayed_eq ss,
    hstart.returned, htotal⟩

end RouterTelemetry.Delivery
