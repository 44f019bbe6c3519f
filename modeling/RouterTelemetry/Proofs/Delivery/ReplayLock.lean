import Mathlib.Algebra.GroupWithZero.Nat
import RouterTelemetry.Proofs.Delivery.History
/-!
# The lock of passes over the spool

Any number of passes over the spool may be called for side by side, by the worker and directly. One that starts
while another one is in progress comes to nothing. Main statements:

* `Transition.running_cases` : what one step does to the passes;
* `Transition.turns` : what it does to the pass in progress;
* `Transition.locked_after` : no more than one pass is in progress after a step.
-/

namespace RouterTelemetry.Delivery

open Text (Bytes)
open Spool (StoredBatch)

/-! ## Passes in progress -/

namespace Replay

/-- Whether a pass is in progress: it has started and is not over. -/
def inProgress : Replay → Bool
  | .starting => false
  | .over _ => false
  | _ => true

/-- A pass that is over is not in progress. -/
theorem inProgress_of_isOver {r : Replay} (h : r.isOver = true) : r.inProgress = false := by
  cases r with
  | «over» n => rfl
  | _ => exact Bool.noConfusion h

/-- The name of the batch that a pass is about to remove. -/
def removing? : Replay → Option Spool.Name
  | .removing name _ => some name
  | _ => none

/-- The name of the batch that the next step removes, if removing it succeeds. -/
def acks? (m : Moment) (f : Flusher) : Replay → Option Spool.Name
  | .removing name _ =>
    match (f.spool.ack name m.disk).1 with
    | .ok _ => some name
    | .error _ => none
  | _ => none

/-- What a pass returns, if it is over with the next step. -/
def returns? (m : Moment) (f : Flusher) (r : Replay) : Option Nat :=
  if r.isOver then none
  else
    match (r.step m f).1 with
    | .over n => some n
    | _ => none

/-- What a step of a pass does to the lock: the pass comes to nothing or was over before, or it starts, or goes
on, or ends. -/
theorem lock_cases (m : Moment) (f : Flusher) (r : Replay) :
    (r.inProgress = false ∧ (r.step m f).1.inProgress = false ∧ (r.step m f).2 = f ∧
        (r.returns? m f).toList.sum = 0) ∨
      (r = .starting ∧ f.replaying = false ∧
        r.step m f = (.looking 0, { f with replaying := true }) ∧ r.returns? m f = none) ∨
      (r.inProgress = true ∧ (r.step m f).1.inProgress = true ∧
        (r.step m f).2.replaying = f.replaying ∧ r.returns? m f = none) ∨
      (r.inProgress = true ∧ (r.step m f).1 = .over r.delivered ∧
        (r.step m f).2.replaying = false ∧ r.returns? m f = some r.delivered) := by
  have hmove := r.moves_step m f
  unfold returns?
  generalize r.step m f = next at hmove ⊢
  cases hmove with
  | refused busy => exact Or.inl ⟨rfl, rfl, rfl, rfl⟩
  | ended n => exact Or.inl ⟨rfl, rfl, rfl, rfl⟩
  | started free => exact Or.inr (Or.inl ⟨rfl, free, rfl, rfl⟩)
  | found n b live head => exact Or.inr (Or.inr (Or.inl ⟨rfl, rfl, rfl, rfl⟩))
  | accepted b failed n live ok => exact Or.inr (Or.inr (Or.inl ⟨rfl, rfl, rfl, rfl⟩))
  | again b failed n e live error more => exact Or.inr (Or.inr (Or.inl ⟨rfl, rfl, rfl, rfl⟩))
  | removed name n ok => exact Or.inr (Or.inr (Or.inl ⟨rfl, rfl, rfl, rfl⟩))
  | _ => exact Or.inr (Or.inr (Or.inr ⟨rfl, rfl, rfl, rfl⟩))

namespace Moves

variable {m : Moment} {f : Flusher} {r : Replay} {next : Replay × Flusher}

/-- A pass in progress has delivered one batch more when it has removed one. -/
theorem delivered_eq (h : r.Moves m f next) (hr : r.inProgress = true) :
    next.1.delivered = r.delivered + (r.acks? m f).toList.length := by
  cases h with
  | refused busy => exact Bool.noConfusion hr
  | started free => exact Bool.noConfusion hr
  | removed name n ok =>
    rw [acks?, ok]
    rfl
  | stuck name n e failed =>
    rw [acks?, failed]
    rfl
  | _ => rfl

/-- A pass that was about to remove a batch sends none in the next step. -/
theorem ne_sending {name : Spool.Name} {n : Nat} (h : (removing name n).Moves m f next)
    (b : StoredBatch) (failed k : Nat) : next.1 ≠ .sending b failed k := by
  cases h with
  | removed name n ok => exact Replay.noConfusion
  | stuck name n e failed => exact Replay.noConfusion

end Moves

end Replay

/-! ## Passes in one step -/

/-- To send a batch has nothing to do with passes. -/
theorem Send.replaying_step (m : Moment) (f : Flusher) (b : Send) :
    (b.step m f).2.replaying = f.replaying := by
  have hmove := b.moves_step m f
  generalize b.step m f = next at hmove
  cases hmove <;> rfl

/-- To offer an event to the inbox has nothing to do with passes. -/
theorem Flusher.replaying_ingest (f : Flusher) (e : Event) :
    (f.ingest e).2.replaying = f.replaying := by
  cases h : f.inbox.hasRoom with
  | true => rw [Flusher.ingest_of_hasRoom h]
  | false => rw [Flusher.ingest_of_not_hasRoom h]

namespace Worker

/-- A worker that makes no pass makes none after it took note of something, or one that starts. -/
theorem pass?_notice_of_none {w : Worker} (h : w.pass? = none) (f : Flusher) (now : Time.Instant)
    (what : Happening) :
    (w.notice f now what).1.pass? = none ∨ (w.notice f now what).1.pass? = some .starting := by
  cases hr : (w.notice f now what).1.pass? with
  | none => exact Or.inl rfl
  | some r =>
    rcases pass?_notice hr with rfl | hr
    · exact Or.inr rfl
    · exact absurd (h.symm.trans hr) (by simp)

/-- A worker that makes no pass makes none after a step, or one that starts. -/
theorem pass?_step_of_none {w : Worker} (h : w.pass? = none) (m : Moment) (f : Flusher) :
    (w.step m f).1.pass? = none ∨ (w.step m f).1.pass? = some .starting := by
  cases hr : (w.step m f).1.pass? with
  | none => exact Or.inl rfl
  | some r =>
    rcases pass?_step hr with rfl | ⟨r₀, hr₀, -⟩
    · exact Or.inr rfl
    · exact absurd (h.symm.trans hr₀) (by simp)

/-- A worker takes its pass further until that is over. -/
theorem pass?_step_of_some {w : Worker} {r : Replay} (h : w.pass? = some r) (m : Moment)
    (f : Flusher) :
    (w.step m f).1.pass? = if (r.step m f).1.isOver then none else some (r.step m f).1 := by
  rw [step_of_replaying (activity_of_pass? h), pass?]
  by_cases hover : (r.step m f).1.isOver = true
  · rw [if_pos hover, if_pos hover]
  · rw [if_neg hover, if_neg hover]

/-- A worker that makes no pass neither takes the lock nor gives it back. -/
theorem replaying_step_of_none {w : Worker} (h : w.pass? = none) (m : Moment) (f : Flusher) :
    (w.step m f).2.replaying = f.replaying := by
  rcases w.activity_cases with ⟨b, a, hw, -, -⟩ | ⟨r, -, -, hpass⟩ | ⟨hw, -, -⟩
  · rw [step_of_sending hw]
    exact b.replaying_step m f
  · exact absurd (h.symm.trans hpass) (by simp)
  · rw [step_of_idle hw]

end Worker

namespace Transition

/-- What becomes of the passes when the worker makes none: at most it calls for one. -/
theorem perm_running_of_none {p q : Option Replay} (hp : p = none)
    (hq : q = none ∨ q = some .starting) (rs : List Replay) :
    (q.toList ++ rs).Perm (p.toList ++ rs) ∨ (q.toList ++ rs).Perm (.starting :: (p.toList ++ rs)) := by
  subst hp
  rcases hq with rfl | rfl
  · exact Or.inl (List.Perm.refl _)
  · exact Or.inr (List.Perm.refl _)

/-- **What one step does to the passes.** It takes one of them further, which may then be gone because the
worker is done with it; or it takes none further, and at most calls for a new one. -/
theorem running_cases (t : Transition) :
    (∃ r m rest, t.pass? = some (r, m) ∧ t.before.running.Perm (r :: rest) ∧
        t.after.flusher = (r.step m t.before.flusher).2 ∧
        (t.after.running.Perm ((r.step m t.before.flusher).1 :: rest) ∨
          ((r.step m t.before.flusher).1.isOver = true ∧ t.after.running.Perm rest))) ∨
      (t.pass? = none ∧ t.after.flusher.replaying = t.before.flusher.replaying ∧
        (t.after.running.Perm t.before.running ∨
          t.after.running.Perm (.starting :: t.before.running))) := by
  obtain ⟨s, a⟩ := t
  cases a with
  | ingest e => exact Or.inr ⟨rfl, s.flusher.replaying_ingest e, Or.inl (List.Perm.refl _)⟩
  | sendersClosed => exact Or.inr ⟨rfl, rfl, Or.inl (List.Perm.refl _)⟩
  | startPass =>
    refine Or.inr ⟨rfl, rfl, Or.inr ?_⟩
    rw [after, System.step, System.running, System.running, ← List.append_assoc]
    exact List.perm_append_singleton _ _
  | startSend now events =>
    refine Or.inr ⟨rfl, ?_⟩
    rw [after, System.step]
    split <;> exact ⟨rfl, Or.inl (List.Perm.refl _)⟩
  | notice now what =>
    refine Or.inr ⟨rfl, ?_⟩
    rw [after, System.step]
    by_cases hw : s.worker.isChoosing = true
    · have hnone : s.worker.pass? = none := by rw [Worker.pass?, Worker.isChoosing_iff.mp hw]
      have hlock : (s.worker.notice s.flusher now what).2.replaying = s.flusher.replaying := by
        rw [Worker.notice_snd]
      rw [if_pos hw]
      exact ⟨hlock,
        perm_running_of_none hnone (Worker.pass?_notice_of_none hnone s.flusher now what) _⟩
    · rw [if_neg hw]
      exact ⟨rfl, Or.inl (List.Perm.refl _)⟩
  | work m =>
    cases hpass : s.worker.pass? with
    | none =>
      refine Or.inr ⟨by simp [pass?, hpass], Worker.replaying_step_of_none hpass m s.flusher, ?_⟩
      exact perm_running_of_none hpass (Worker.pass?_step_of_none hpass m s.flusher) _
    | some r =>
      have hstep := Worker.pass?_step_of_some hpass m s.flusher
      have hrunning : (after ⟨s, .work m⟩).running =
          (s.worker.step m s.flusher).1.pass?.toList ++ s.passes := rfl
      refine Or.inl ⟨r, m, s.passes, by simp [pass?, hpass], ?_, ?_, ?_⟩
      · rw [System.running, hpass]
        exact List.Perm.refl _
      · rw [after, System.step, Worker.step_of_replaying (Worker.activity_of_pass? hpass)]
      · rw [hrunning, hstep]
        by_cases hover : (r.step m s.flusher).1.isOver = true
        · rw [if_pos hover]
          exact Or.inr ⟨hover, List.Perm.refl _⟩
        · rw [if_neg hover]
          exact Or.inl (List.Perm.refl _)
  | send i m =>
    refine Or.inr ⟨rfl, ?_⟩
    rw [after, System.step]
    split
    · next b hb => exact ⟨b.replaying_step m s.flusher, Or.inl (List.Perm.refl _)⟩
    · exact ⟨rfl, Or.inl (List.Perm.refl _)⟩
  | pass i m =>
    cases hi : s.passes[i]? with
    | none =>
      have hsame : s.step (.pass i m) = s := by simp [System.step, hi]
      refine Or.inr ⟨by simp [pass?, hi], ?_⟩
      rw [after, hsame]
      exact ⟨rfl, Or.inl (List.Perm.refl _)⟩
    | some r =>
      obtain ⟨hlt, hr⟩ := List.getElem?_eq_some_iff.mp hi
      have hstep : s.step (.pass i m) = { s with
          flusher := (r.step m s.flusher).2
          passes := s.passes.set i (r.step m s.flusher).1 } := by simp [System.step, hi]
      refine Or.inl ⟨r, m, s.worker.pass?.toList ++ s.passes.eraseIdx i, by simp [pass?, hi], ?_, ?_, ?_⟩
      · have hperm := (List.getElem_cons_eraseIdx_perm hlt).symm
        rw [hr] at hperm
        exact (hperm.append_left _).trans List.perm_middle
      · rw [after, hstep]
      · rw [after, hstep]
        exact Or.inl (((List.set_perm_cons_eraseIdx hlt _).append_left _).trans List.perm_middle)

end Transition

/-! ## The lock -/

/-- Lists of at most one element do not differ in order. -/
theorem eq_of_perm_of_length_le_one {α : Type} {l₁ l₂ : List α} (h : l₁.Perm l₂)
    (hl : l₁.length ≤ 1) : l₁ = l₂ := by
  cases l₁ with
  | nil => exact h.nil_eq
  | cons a l =>
    obtain rfl := List.eq_nil_of_length_eq_zero (Nat.le_zero.mp (Nat.le_of_succ_le_succ hl))
    exact (List.singleton_perm.mp h)

/-- The passes that are in progress. -/
def System.inProgress (s : System) : List Replay :=
  s.running.filter Replay.inProgress

/-- While a pass is in progress the lock is taken, and no other pass is in progress. -/
def System.Locked (s : System) : Prop :=
  s.inProgress.length ≤ if s.flusher.replaying then 1 else 0

namespace System

variable {s : System} {r : Replay} {rest : List Replay}

theorem Locked.length_le (h : s.Locked) : s.inProgress.length ≤ 1 := by
  refine Nat.le_trans h ?_
  split <;> decide

theorem Locked.eq_nil (h : s.Locked) (hfree : s.flusher.replaying = false) : s.inProgress = [] := by
  rw [Locked, hfree] at h
  exact List.eq_nil_of_length_eq_zero (Nat.le_zero.mp h)

theorem inProgress_of_eq (h : s.inProgress = [r]) : r.inProgress = true := by
  have hmem : r ∈ s.inProgress := by
    rw [h]
    exact List.mem_singleton_self r
  exact (List.mem_filter.mp hmem).2

theorem perm_inProgress (hperm : s.running.Perm (r :: rest)) :
    s.inProgress.Perm ((if r.inProgress then [r] else []) ++ rest.filter Replay.inProgress) := by
  refine (hperm.filter Replay.inProgress).trans (List.Perm.of_eq ?_)
  cases hr : r.inProgress with
  | true => rw [List.filter_cons_of_pos hr, if_pos rfl, List.singleton_append]
  | false => rw [List.filter_cons_of_neg (by simp [hr])]; rfl

/-- Nothing else is in progress with a pass that is. -/
theorem Locked.eq_singleton (h : s.Locked) (hperm : s.running.Perm (r :: rest))
    (hr : r.inProgress = true) : s.inProgress = [r] ∧ rest.filter Replay.inProgress = [] := by
  have hall := perm_inProgress hperm
  rw [if_pos hr, List.singleton_append] at hall
  have heq := eq_of_perm_of_length_le_one hall h.length_le
  have hlength := h.length_le
  rw [heq, List.length_cons] at hlength
  have hrest := List.eq_nil_of_length_eq_zero (Nat.le_zero.mp (Nat.le_of_succ_le_succ hlength))
  exact ⟨by rw [heq, hrest], hrest⟩

/-- A pass that is not in progress does not count. -/
theorem Locked.eq_filter (h : s.Locked) (hperm : s.running.Perm (r :: rest))
    (hr : r.inProgress = false) : s.inProgress = rest.filter Replay.inProgress := by
  have hall := perm_inProgress hperm
  rw [hr] at hall
  exact eq_of_perm_of_length_le_one hall h.length_le

end System

namespace Transition

/-- The name of the batch that a step removes from the spool as delivered, if removing it succeeds. -/
def acked? (t : Transition) : Option Spool.Name :=
  t.pass?.bind fun next => next.1.acks? next.2 t.before.flusher

/-- What a pass returns that is over with a step. -/
def result? (t : Transition) : Option Nat :=
  t.pass?.bind fun next => next.1.returns? next.2 t.before.flusher

/-- A step takes one pass further at most. -/
theorem pass?_inj {t : Transition} {r r' : Replay} {m m' : Moment} (h : t.pass? = some (r, m))
    (h' : t.pass? = some (r', m')) : r = r' ∧ m = m' :=
  Prod.mk.inj (Option.some.inj (h.symm.trans h'))

theorem acked?_of_pass? {t : Transition} {r : Replay} {m : Moment} (h : t.pass? = some (r, m)) :
    t.acked? = r.acks? m t.before.flusher := by
  rw [acked?, h, Option.bind_some]

theorem result?_of_pass? {t : Transition} {r : Replay} {m : Moment} (h : t.pass? = some (r, m)) :
    t.result? = r.returns? m t.before.flusher := by
  rw [result?, h, Option.bind_some]

/-- What a step does to the pass that is in progress. -/
inductive Turns (t : Transition) : Prop
  /-- No pass that is in progress goes on, and none starts. A pass that was called for may be refused. -/
  | rests (same : t.after.inProgress = t.before.inProgress)
      (lock : t.after.flusher.replaying = t.before.flusher.replaying)
      (idle : ∀ r m, t.pass? = some (r, m) → r.inProgress = false)
      (result : t.result?.toList.sum = 0)
  | starts (m : Moment) (pass : t.pass? = some (.starting, m)) (before : t.before.inProgress = [])
      (after : t.after.inProgress = [.looking 0]) (lock : t.after.flusher.replaying = true)
      (result : t.result? = none)
  | goesOn (r : Replay) (m : Moment) (pass : t.pass? = some (r, m))
      (before : t.before.inProgress = [r])
      (after : t.after.inProgress = [(r.step m t.before.flusher).1])
      (lock : t.after.flusher.replaying = t.before.flusher.replaying) (result : t.result? = none)
  | ends (r : Replay) (m : Moment) (pass : t.pass? = some (r, m))
      (before : t.before.inProgress = [r]) (after : t.after.inProgress = [])
      (last : (r.step m t.before.flusher).1 = .over r.delivered)
      (result : t.result? = some r.delivered)

/-- What is in progress after a pass was taken further, whether or not the worker is done with it. -/
theorem perm_inProgress_after {t : Transition} {r : Replay} {rest : List Replay}
    (h : t.after.running.Perm (r :: rest) ∨ (r.isOver = true ∧ t.after.running.Perm rest)) :
    t.after.inProgress.Perm
      ((if r.inProgress then [r] else []) ++ rest.filter Replay.inProgress) := by
  rcases h with h | ⟨hover, h⟩
  · exact System.perm_inProgress h
  · rw [Replay.inProgress_of_isOver hover]
    exact h.filter _

/-- **What a step does to the pass in progress**: at most one pass is taken further, and only when none is in
progress can one start. -/
theorem turns {t : Transition} (h : t.before.Locked) : t.Turns := by
  rcases t.running_cases with
    ⟨r, m, rest, hpass, hbefore, hflusher, hrunning⟩ | ⟨hnone, hlock, hrunning⟩
  · have hafter := perm_inProgress_after hrunning
    have hresult := result?_of_pass? hpass
    rcases r.lock_cases m t.before.flusher with ⟨hr, hnext, hsame, hreturns⟩ |
      ⟨rfl, hfree, hnext, hreturns⟩ | ⟨hr, hnext, hlock, hreturns⟩ | ⟨hr, hlast, -, hreturns⟩
    · rw [hnext] at hafter
      have hothers := h.eq_filter hbefore hr
      refine .rests ?_ (by rw [hflusher, hsame]) ?_ (by rw [hresult, hreturns])
      · exact (eq_of_perm_of_length_le_one (hothers ▸ hafter.symm) h.length_le).symm
      · intro r' m' hpass'
        obtain ⟨rfl, rfl⟩ := pass?_inj hpass hpass'
        exact hr
    · rw [hnext] at hafter hflusher
      have hnil := h.eq_nil hfree
      rw [← h.eq_filter hbefore rfl, hnil] at hafter
      exact .starts m hpass hnil (List.perm_singleton.mp hafter) (by rw [hflusher])
        (hresult.trans hreturns)
    · obtain ⟨hone, hrest⟩ := h.eq_singleton hbefore hr
      rw [if_pos hnext, hrest] at hafter
      exact .goesOn r m hpass hone (List.perm_singleton.mp hafter) (by rw [hflusher, hlock])
        (hresult.trans hreturns)
    · obtain ⟨hone, hrest⟩ := h.eq_singleton hbefore hr
      rw [hlast, hrest] at hafter
      exact .ends r m hpass hone (List.perm_nil.mp hafter) hlast (hresult.trans hreturns)
  · -- a pass that is only called for is not in progress
    have hafter : t.after.inProgress.Perm t.before.inProgress := by
      rcases hrunning with h | h <;> exact h.filter _
    refine .rests (eq_of_perm_of_length_le_one hafter.symm h.length_le).symm hlock ?_ ?_
    · intro r m hpass
      exact absurd (hnone.symm.trans hpass) (by simp)
    · rw [result?, hnone]
      rfl

/-- **The lock holds after a step.** -/
theorem locked_after {t : Transition} (h : t.before.Locked) : t.after.Locked := by
  cases turns h with
  | rests same lock idle result => rwa [System.Locked, same, lock]
  | starts m pass before after lock result =>
    rw [System.Locked, after, lock]
    exact Nat.le_refl 1
  | goesOn r m pass before after lock result =>
    rw [System.Locked, before] at h
    rwa [System.Locked, after, lock]
  | ends r m pass before after last result =>
    rw [System.Locked, after]
    exact Nat.zero_le _

end Transition

theorem System.Locked.steps {s : System} (h : s.Locked) (ss : List Step) : (s.steps ss).Locked := by
  induction ss generalizing s with
  | nil => exact h
  | cons a ss ih => exact ih (Transition.locked_after (t := ⟨s, a⟩) h)

end RouterTelemetry.Delivery
