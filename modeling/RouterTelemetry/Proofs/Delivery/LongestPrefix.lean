import RouterTelemetry.Delivery.Run
import RouterTelemetry.Proofs.Delivery.ReplayLock
import RouterTelemetry.Proofs.Delivery.Retries
import RouterTelemetry.Proofs.Spool.Restart
/-!
# What a pass over the spool delivers

A pass sends the batches of the spool in the order of their names, each as it is stored, until the collector has
accepted all of them or has refused one as often as it is tried. Main statements:

* `Midway.step` : what one step of a pass leaves of it, and that there are fewer steps left;
* `Passing.passSteps` : what any number of steps leave of a run that makes a pass;
* `longest_prefix_delivered` : what a pass has delivered, sent and left behind when it is over.

The calls of the file system succeed, and nothing else is done to the spool in the meantime. A pass may see at any of
its checks that it is cancelled.
-/

namespace RouterTelemetry.Delivery

open Text (Bytes)
open Spool (StoredBatch)

/-! ## Batches that are delivered -/

/-- So many requests are refused, of which the first has the number `first`. -/
def Refuses (answer : Nat → Reply) (first count : Nat) : Prop :=
  ∀ j < count, (answer (first + j)).Fails

section Passes

variable (limit : Nat) (answer : Nat → Reply) (first : Nat)

/-- Some batches are delivered with some requests: each one is sent until it is accepted, but no more than `limit`
times. The first request has the number `first`. -/
inductive Delivers : List StoredBatch → List Bytes → Prop
  | nothing : Delivers [] []
  | another {done : List StoredBatch} {posts : List Bytes} (b : StoredBatch) (tries : Nat)
      (before : Delivers done posts) (more : tries < limit) (refused : Refuses answer (first + posts.length) tries)
      (ok : (answer (first + posts.length + tries)).result = .ok ()) :
      Delivers (done ++ [b]) (posts ++ List.replicate (tries + 1) b.content)

variable (mayCut : Prop) (initial : List StoredBatch)

/-- What comes of a pass over some batches: how many of them it delivers, which ones it leaves, and what it sends. It
delivers all, or all before one that is refused as often as it is tried. Or it sees that it is cancelled, before it
sends a batch or between two attempts. -/
inductive Outcome : Nat → List StoredBatch → List Bytes → Prop
  | emptied {done : List StoredBatch} {posts : List Bytes} (delivers : Delivers limit answer first done posts)
      (whole : initial = done) : Outcome done.length [] posts
  | gaveUp {done rest : List StoredBatch} {b : StoredBatch} {posts : List Bytes}
      (delivers : Delivers limit answer first done posts) (whole : initial = done ++ b :: rest)
      (refused : Refuses answer (first + posts.length) limit) :
      Outcome done.length (b :: rest) (posts ++ List.replicate limit b.content)
  | cut {done left : List StoredBatch} {posts : List Bytes} (delivers : Delivers limit answer first done posts)
      (whole : initial = done ++ left) (seen : mayCut) : Outcome done.length left posts
  | interrupted {done rest : List StoredBatch} {b : StoredBatch} {posts : List Bytes} {tries : Nat}
      (delivers : Delivers limit answer first done posts) (whole : initial = done ++ b :: rest) (more : tries < limit)
      (refused : Refuses answer (first + posts.length) tries) (seen : mayCut) :
      Outcome done.length (b :: rest) (posts ++ List.replicate tries b.content)

/-- Where a pass is: the batches that are still stored, and what it has sent. -/
inductive Phase : Replay → List StoredBatch → List Bytes → Prop
  | starting : Phase .starting initial []
  | looking {done left : List StoredBatch} {posts : List Bytes} (delivers : Delivers limit answer first done posts)
      (whole : initial = done ++ left) : Phase (.looking done.length) left posts
  | sending {done rest : List StoredBatch} {b : StoredBatch} {posts : List Bytes} {failed : Nat}
      (delivers : Delivers limit answer first done posts) (whole : initial = done ++ b :: rest) (more : failed < limit)
      (refused : Refuses answer (first + posts.length) failed) :
      Phase (.sending b failed done.length) (b :: rest) (posts ++ List.replicate failed b.content)
  | removing {done rest : List StoredBatch} {b : StoredBatch} {posts : List Bytes}
      (delivers : Delivers limit answer first (done ++ [b]) posts) (whole : initial = done ++ b :: rest) :
      Phase (.removing b.name done.length) (b :: rest) posts
  | ended {k : Nat} {left : List StoredBatch} {posts : List Bytes}
      (outcome : Outcome limit answer first mayCut initial k left posts) : Phase (.over k) left posts

end Passes

/-- More steps are not left to a pass, when so many batches are stored. -/
def Replay.stepsLeft (limit stored : Nat) : Replay → Nat
  | .starting => stored * (limit + 2) + 2
  | .looking _ => stored * (limit + 2) + 1
  | .sending _ failed _ => (stored - 1) * (limit + 2) + (limit - failed) + 2
  | .removing _ _ => (stored - 1) * (limit + 2) + 2
  | .over _ => 0

/-- What is known of a pass that is on its way or over, to which no more than `n` steps are left. -/
structure Midway (limit : Nat) (answer : Nat → Reply) (first : Nat) (mayCut : Prop) (initial : List StoredBatch)
    (n : Nat) (f : Flusher) (p : Replay) (posts : List Bytes) : Prop where
  limit_eq : Shipment.limit f.attempts = limit
  lock : f.replaying = p.inProgress
  orderly : f.spool.Orderly
  phase : Phase limit answer first mayCut initial p f.spool.batches posts
  bounded : p.stepsLeft limit f.spool.batches.length ≤ n

/-! ## One step -/

section Steps

variable {answer : Nat → Reply} {first : Nat} {mayCut : Prop} {initial : List StoredBatch}

theorem Refuses.zero : Refuses answer first 0 :=
  fun j hj => absurd hj (Nat.not_lt_zero j)

theorem Refuses.succ {count : Nat} (h : Refuses answer first count) (hlast : (answer (first + count)).Fails) :
    Refuses answer first (count + 1) :=
  Nat.forall_lt_succ_right.mpr ⟨h, hlast⟩

namespace Midway

variable {limit n : Nat} {f : Flusher} {posts : List Bytes} {m : Moment} {next : Replay × Flusher}

/-- What is known of a pass when the batches that are stored are. -/
theorem of_batches {p : Replay} {bs : List StoredBatch} (hlimit : Shipment.limit f.attempts = limit)
    (hlock : f.replaying = p.inProgress) (horderly : f.spool.Orderly) (hbatches : f.spool.batches = bs)
    (hphase : Phase limit answer first mayCut initial p bs posts) (hbounded : p.stepsLeft limit bs.length ≤ n) :
    Midway limit answer first mayCut initial n f p posts := by
  subst hbatches
  exact ⟨hlimit, hlock, horderly, hphase, hbounded⟩

/-- A pass that looks for the oldest batch finds it, or there is none, or the pass is cancelled. -/
theorem step_looking {done left : List StoredBatch}
    (h : Midway limit answer first mayCut initial n f (.looking done.length) posts)
    (hbatches : f.spool.batches = left) (hdelivers : Delivers limit answer first done posts)
    (hwhole : initial = done ++ left) (hdisk : m.disk = {}) (hseen : m.cancelled = true → mayCut)
    (hmove : (Replay.looking done.length).Moves m f next) :
    Midway limit answer first mayCut initial (n - 1) next.2 next.1 posts := by
  obtain ⟨hlimit, hlock, horderly, -, hbounded⟩ := h
  rw [hbatches] at hbounded
  cases hmove with
  | found k b live head =>
    rw [hdisk, horderly.dequeueOldest, hbatches] at head
    cases left with
    | nil => exact absurd head (by simp)
    | cons oldest rest =>
      obtain rfl := Except.ok.inj head
      have hpos : 0 < limit := hlimit ▸ Nat.lt_of_lt_of_le Nat.one_pos (Nat.le_max_left ..)
      have hphase : Phase limit answer first mayCut initial (.sending oldest 0 done.length) (oldest :: rest)
          (posts ++ List.replicate 0 oldest.content) := .sending hdelivers hwhole hpos .zero
      rw [List.replicate_zero, List.append_nil] at hphase
      refine of_batches hlimit hlock horderly hbatches hphase ?_
      -- the steps for one batch are as many as it can be tried, and two more
      simp only [Replay.stepsLeft, List.length_cons, Nat.succ_mul] at hbounded ⊢
      rw [Nat.add_sub_cancel]
      omega
  | unfound k e live failed =>
    rw [hdisk, horderly.dequeueOldest, hbatches] at failed
    cases left with
    | cons oldest rest => exact absurd failed (by simp)
    | nil =>
      rw [List.append_nil] at hwhole
      exact of_batches hlimit rfl horderly hbatches (.ended (.emptied hdelivers hwhole)) (Nat.zero_le _)
  | cancelledLooking k seen =>
    exact of_batches hlimit rfl horderly hbatches (.ended (.cut hdelivers hwhole (hseen seen))) (Nat.zero_le _)

/-- A batch that a pass sends is accepted, or sent again, or given up, or the pass is cancelled. -/
theorem step_sending {done rest : List StoredBatch} {b : StoredBatch} {failed : Nat}
    (h : Midway limit answer first mayCut initial n f (.sending b failed done.length)
      (posts ++ List.replicate failed b.content))
    (hbatches : f.spool.batches = b :: rest) (hdelivers : Delivers limit answer first done posts)
    (hwhole : initial = done ++ b :: rest) (hmore : failed < limit)
    (hrefused : Refuses answer (first + posts.length) failed)
    (hreply : m.reply = answer (first + posts.length + failed)) (hseen : m.cancelled = true → mayCut)
    (hmove : (Replay.sending b failed done.length).Moves m f next) :
    Midway limit answer first mayCut initial (n - 1) next.2 next.1
      (posts ++ List.replicate failed b.content ++
        ((Replay.sending b failed done.length).request? m.cancelled).toList) := by
  obtain ⟨hlimit, hlock, horderly, -, hbounded⟩ := h
  simp only [hbatches, Replay.stepsLeft, List.length_cons, Nat.add_sub_cancel] at hbounded
  have hone (live : m.cancelled = false) :
      posts ++ List.replicate failed b.content ++
          ((Replay.sending b failed done.length).request? m.cancelled).toList =
        posts ++ List.replicate (failed + 1) b.content := by
    rw [live, List.append_assoc, List.replicate_succ']
    rfl
  cases hmove with
  | accepted b failed k live ok =>
    rw [hone live]
    have hdone : Delivers limit answer first (done ++ [b]) (posts ++ List.replicate (failed + 1) b.content) :=
      .another b failed hdelivers hmore hrefused (hreply ▸ ok)
    refine of_batches hlimit hlock horderly hbatches (.removing hdone hwhole) ?_
    simp only [Replay.stepsLeft, List.length_cons, Nat.add_sub_cancel]
    omega
  | again b failed k e live error again =>
    rw [hone live]
    have hrefused' := hrefused.succ ⟨e, hreply ▸ error⟩
    refine of_batches hlimit hlock horderly hbatches (.sending hdelivers hwhole (hlimit ▸ again) hrefused') ?_
    simp only [Replay.stepsLeft, List.length_cons, Nat.add_sub_cancel]
    omega
  | gaveUp b failed k e live error last =>
    -- this was the last of the attempts
    have hlast : failed + 1 = limit := by omega
    have hrefused' := hrefused.succ ⟨e, hreply ▸ error⟩
    rw [hlast] at hrefused'
    rw [hone live, hlast]
    exact of_batches hlimit rfl horderly hbatches (.ended (.gaveUp hdelivers hwhole hrefused')) (Nat.zero_le _)
  | cancelledSending b failed k seen =>
    rw [seen, show (Replay.sending b failed done.length).request? true = none from rfl, Option.toList_none,
      List.append_nil]
    exact of_batches hlimit rfl horderly hbatches
      (.ended (.interrupted hdelivers hwhole hmore hrefused (hseen seen))) (Nat.zero_le _)

/-- A pass removes the batch that was accepted, and looks for the next one. -/
theorem step_removing {done rest : List StoredBatch} {b : StoredBatch}
    (h : Midway limit answer first mayCut initial n f (.removing b.name done.length) posts)
    (hbatches : f.spool.batches = b :: rest) (hdelivers : Delivers limit answer first (done ++ [b]) posts)
    (hwhole : initial = done ++ b :: rest) (hdisk : m.disk = {})
    (hmove : (Replay.removing b.name done.length).Moves m f next) :
    Midway limit answer first mayCut initial (n - 1) next.2 next.1 posts := by
  obtain ⟨hlimit, hlock, horderly, -, hbounded⟩ := h
  simp only [hbatches, Replay.stepsLeft, List.length_cons, Nat.add_sub_cancel] at hbounded
  cases hmove with
  | removed name k ok =>
    have hrest : (f.spool.ack b.name m.disk).2.batches = rest := by
      rw [hdisk]
      exact horderly.batches_ack hbatches
    have hphase : Phase limit answer first mayCut initial (.looking (done ++ [b]).length) rest posts :=
      .looking hdelivers (by rw [hwhole, List.append_assoc]; rfl)
    rw [List.length_append] at hphase
    refine of_batches hlimit hlock (horderly.ack _ _) hrest hphase ?_
    simp only [Replay.stepsLeft]
    omega
  | stuck name k e failed =>
    -- the batch is there, so it can be removed
    rw [hdisk, horderly.ack_of_mem (hbatches ▸ List.mem_cons_self ..)] at failed
    exact absurd failed (by simp)

/-- **One step of a pass.** It leaves fewer steps. -/
theorem step {p : Replay} (h : Midway limit answer first mayCut initial n f p posts) (hdisk : m.disk = {})
    (hreply : m.reply = answer (first + posts.length)) (hseen : m.cancelled = true → mayCut) :
    Midway limit answer first mayCut initial (n - 1) (p.step m f).2 (p.step m f).1
      (posts ++ (p.request? m.cancelled).toList) := by
  have hmove := p.moves_step m f
  generalize p.step m f = next at hmove ⊢
  have hphase := h.phase
  generalize hbatches : f.spool.batches = batches at hphase
  cases hphase with
  | starting =>
    obtain ⟨hlimit, hlock, horderly, -, hbounded⟩ := h
    cases hmove with
    | refused busy => exact absurd (busy.symm.trans hlock) (by simp [Replay.inProgress])
    | started free =>
      refine of_batches hlimit rfl horderly hbatches (.looking .nothing rfl) ?_
      simp only [hbatches, Replay.stepsLeft] at hbounded ⊢
      omega
  | looking delivers whole =>
    rw [show (Replay.looking _).request? m.cancelled = none from rfl, Option.toList_none, List.append_nil]
    exact h.step_looking hbatches delivers whole hdisk hseen hmove
  | sending delivers whole more refused =>
    rw [List.length_append, List.length_replicate, ← Nat.add_assoc] at hreply
    exact h.step_sending hbatches delivers whole more refused hreply hseen hmove
  | removing delivers whole =>
    rw [show (Replay.removing _ _).request? m.cancelled = none from rfl, Option.toList_none, List.append_nil]
    exact h.step_removing hbatches delivers whole hdisk hmove
  | ended outcome =>
    cases hmove with
    | ended k =>
      rw [show (Replay.over _).request? m.cancelled = none from rfl, Option.toList_none, List.append_nil]
      exact of_batches h.limit_eq h.lock h.orderly hbatches (.ended outcome) (Nat.zero_le _)

/-- A pass to which no steps are left is over. -/
theorem eq_over {p : Replay} (h : Midway limit answer first mayCut initial 0 f p posts) : ∃ k, p = .over k := by
  have hbounded := h.bounded
  cases p with
  | «over» k => exact ⟨k, rfl⟩
  | _ =>
    simp only [Replay.stepsLeft] at hbounded
    omega

end Midway

end Steps

/-! ## Runs -/

namespace Run

/-- The run after one step of a pass, which may see that it is cancelled. -/
def passStep (i : Nat) (r : Run) (seen : Bool) : Run :=
  r.take fun reply => .pass i (r.moment reply seen)

/-- The run after some steps of a pass. -/
def passSteps (i : Nat) (r : Run) (seen : List Bool) : Run :=
  seen.foldl (passStep i) r

/-- A pass is called for. -/
def startPass (r : Run) : Run :=
  r.take fun _ => .startPass

/-- Whether the next step of a pass begins with the check that it is not cancelled. -/
def ChecksNext (i : Nat) (r : Run) : Prop :=
  (∃ n, r.system.passes[i]? = some (.looking n)) ∨ ∃ b failed n, r.system.passes[i]? = some (.sending b failed n)

theorem passStep_eq {r : Run} {i : Nat} {p : Replay} (h : r.system.passes[i]? = some p) (seen : Bool) :
    r.passStep i seen =
      { r with
        system := { r.system with
          flusher := (p.step (r.moment (r.answers r.requests.length) seen) r.flusher).2
          passes := r.system.passes.set i (p.step (r.moment (r.answers r.requests.length) seen) r.flusher).1 }
        requests := (p.request? seen).toList ++ r.requests } := by
  have hrequest : r.system.request? (.pass i (r.moment (r.answers r.requests.length) seen)) = p.request? seen := by
    rw [System.request?, h]
    rfl
  have hsystem : r.system.step (.pass i (r.moment (r.answers r.requests.length) seen)) =
      { r.system with
        flusher := (p.step (r.moment (r.answers r.requests.length) seen) r.flusher).2
        passes := r.system.passes.set i (p.step (r.moment (r.answers r.requests.length) seen) r.flusher).1 } := by
    rw [System.step, h]
    rfl
  unfold passStep take
  dsimp only
  rw [hrequest, hsystem]
  cases p.request? seen <;> rfl

theorem pass_passStep {r : Run} {i : Nat} {p : Replay} (h : r.system.passes[i]? = some p) (seen : Bool) :
    (r.passStep i seen).system.passes[i]? =
      some (p.step (r.moment (r.answers r.requests.length) seen) r.flusher).1 := by
  have hi : i < r.system.passes.length := (List.getElem?_eq_some_iff.mp h).1
  rw [passStep_eq h]
  exact List.getElem?_set_self hi

theorem requests_passStep {r : Run} {i : Nat} {p : Replay} (h : r.system.passes[i]? = some p) (seen : Bool) :
    (r.passStep i seen).requests = (p.request? seen).toList ++ r.requests := by
  rw [passStep_eq h]

/-- A pass that is over sends nothing. -/
theorem requests_of_over {r : Run} {i k : Nat} (h : r.system.passes[i]? = some (.over k)) (seen : List Bool) :
    (r.passSteps i seen).requests = r.requests := by
  induction seen generalizing r with
  | nil => rfl
  | cons s seen ih =>
    show ((r.passStep i s).passSteps i seen).requests = r.requests
    rw [ih (pass_passStep h s), requests_passStep h s]
    rfl

/-- A pass that sees at a check that it is cancelled sends nothing any more. -/
theorem requests_of_seen {r : Run} {i : Nat} (h : r.ChecksNext i) (later : List Bool) :
    ((r.passStep i true).passSteps i later).requests = r.requests := by
  rcases h with ⟨n, hpass⟩ | ⟨b, failed, n, hpass⟩
  · have hover : (r.passStep i true).system.passes[i]? = some (.over n) := pass_passStep hpass true
    rw [requests_of_over hover, requests_passStep hpass]
    rfl
  · have hover : (r.passStep i true).system.passes[i]? = some (.over n) := pass_passStep hpass true
    rw [requests_of_over hover, requests_passStep hpass]
    rfl

end Run

/-- What is known of a run in which a pass has been called for at `start` and is at `p`. -/
structure Passing (start : Run) (i : Nat) (mayCut : Prop) (n : Nat) (p : Replay) (r : Run) : Prop where
  pass : r.system.passes[i]? = some p
  answers : r.answers = start.answers
  midway : ∃ posts, r.requests = posts.reverse ++ start.requests ∧
    Midway (Shipment.limit start.flusher.attempts) start.answers start.requests.length mayCut
      start.flusher.spool.batches n r.flusher p posts

namespace Passing

variable {start r : Run} {i n : Nat} {mayCut : Prop} {p : Replay}

/-- One step of the pass. -/
theorem passStep (h : Passing start i mayCut n p r) {seen : Bool} (hseen : seen = true → mayCut) :
    ∃ p', Passing start i mayCut (n - 1) p' (r.passStep i seen) := by
  obtain ⟨hpass, hanswers, posts, hrequests, hmidway⟩ := h
  have hreply : r.answers r.requests.length = start.answers (start.requests.length + posts.length) := by
    rw [hanswers, hrequests, List.length_append, List.length_reverse, Nat.add_comm]
  have hnext := hmidway.step (m := r.moment (r.answers r.requests.length) seen) rfl hreply hseen
  -- a run keeps its requests in reverse, the latest first
  refine ⟨_, Run.pass_passStep hpass seen, ?_, posts ++ (p.request? seen).toList, ?_, ?_⟩
  · rw [Run.passStep_eq hpass]
    exact hanswers
  · rw [Run.requests_passStep hpass, hrequests, List.reverse_append, List.append_assoc]
    cases p.request? seen <;> rfl
  · rw [Run.passStep_eq hpass]
    exact hnext

/-- Any number of steps of the pass. -/
theorem passSteps (h : Passing start i mayCut n p r) {seen : List Bool} (hseen : true ∈ seen → mayCut) :
    ∃ p', Passing start i mayCut (n - seen.length) p' (r.passSteps i seen) := by
  induction seen generalizing n p r with
  | nil => exact ⟨p, h⟩
  | cons s seen ih =>
    have hs : s = true → mayCut := fun hs => hseen (hs ▸ List.mem_cons_self ..)
    obtain ⟨p', h'⟩ := h.passStep hs
    obtain ⟨p'', h''⟩ := ih h' fun hs => hseen (List.mem_cons_of_mem s hs)
    rw [Nat.sub_sub, Nat.add_comm 1] at h''
    exact ⟨p'', h''⟩

/-- A pass that goes on within a run's patience is over then. -/
theorem finishPass (h : Passing start i mayCut n p r) {cancelAt : Option Nat} {fuel : Nat} (hfuel : n ≤ fuel)
    (hcut : cancelAt ≠ none → mayCut) :
    ∃ k, Passing start i mayCut 0 (.over k) (r.finishPass i cancelAt fuel) := by
  -- the fuel is never less than the steps that are left
  induction fuel generalizing n p r with
  | zero =>
    obtain rfl := Nat.le_zero.mp hfuel
    obtain ⟨-, -, posts, -, hmidway⟩ := id h
    obtain ⟨k, rfl⟩ := hmidway.eq_over
    exact ⟨k, h⟩
  | succ fuel ih =>
    unfold Run.finishPass
    rw [h.pass]
    split
    · next k hover =>
      obtain rfl := Option.some.inj hover
      obtain ⟨hpass, hanswers, posts, hrequests, hmidway⟩ := h
      exact ⟨k, hpass, hanswers, posts, hrequests, { hmidway with bounded := Nat.le_refl 0 }⟩
    · next hnone => exact absurd hnone (by simp)
    · have hnext (seen : Bool) (hseen : seen = true → mayCut) :
          ∃ k, Passing start i mayCut 0 (.over k) ((r.passStep i seen).finishPass i cancelAt fuel) := by
        obtain ⟨p', h'⟩ := h.passStep hseen
        exact ih h' (by omega)
      apply hnext
      intro hseen
      apply hcut
      rintro rfl
      exact absurd hseen (by simp)

end Passing

/-- A pass that was called for at `start` is over, and has delivered `k` batches. -/
structure PassEnded (start : Run) (i : Nat) (mayCut : Prop) (k : Nat) (r : Run) : Prop where
  pass : r.system.passes[i]? = some (.over k)
  /-- Another pass may start. -/
  free : r.flusher.replaying = false
  outcome : ∃ posts, r.requests = posts.reverse ++ start.requests ∧
    Outcome (Shipment.limit start.flusher.attempts) start.answers start.requests.length mayCut
      start.flusher.spool.batches k r.flusher.spool.batches posts

theorem Passing.ended {start r : Run} {i k n : Nat} {mayCut : Prop} (h : Passing start i mayCut n (.over k) r) :
    PassEnded start i mayCut k r := by
  obtain ⟨hpass, -, posts, hrequests, hmidway⟩ := h
  refine ⟨hpass, hmidway.lock, posts, hrequests, ?_⟩
  have hphase := hmidway.phase
  cases hphase with
  | ended outcome => exact outcome

/-- A pass that is called for while none is in progress has no more steps before it than a run has patience for. -/
theorem passing_startPass {r : Run} (hfree : r.flusher.replaying = false) (hspool : r.flusher.spool.Orderly)
    (mayCut : Prop) : Passing r r.system.passes.length mayCut (r.patience + 2) .starting r.startPass := by
  refine ⟨List.getElem?_concat_length .., rfl, [], rfl, ⟨rfl, hfree, hspool, .starting, ?_⟩⟩
  show r.flusher.spool.count * (Shipment.limit r.flusher.attempts + 2) + 2 ≤ r.patience + 2
  have hstored : r.flusher.spool.count ≤ 2 * (r.flusher.inbox.depth + r.flusher.spool.count + 2) := by omega
  exact Nat.add_le_add_right (Nat.mul_le_mul hstored (Nat.add_le_add_left (by decide) _)) 2

/-- **A pass delivers the longest prefix of the spool that can be delivered**, each batch as it is stored, and leaves
the others. It comes to an end, at once or step by step. Once it has seen that it is cancelled it sends nothing. -/
theorem longest_prefix_delivered {r : Run} (hfree : r.flusher.replaying = false) (hspool : r.flusher.spool.Orderly) :
    (∀ cancelAfter, PassEnded r r.system.passes.length (cancelAfter ≠ none) (r.replay cancelAfter).1
      (r.replay cancelAfter).2) ∧
    (∀ seen : List Bool, r.patience + 2 ≤ seen.length →
      ∃ k, PassEnded r r.system.passes.length (true ∈ seen) k (r.startPass.passSteps r.system.passes.length seen)) ∧
    (∀ before later : List Bool, (r.startPass.passSteps r.system.passes.length before).ChecksNext
        r.system.passes.length →
      (r.startPass.passSteps r.system.passes.length (before ++ true :: later)).requests =
        (r.startPass.passSteps r.system.passes.length before).requests) := by
  refine ⟨?_, ?_, ?_⟩
  · intro cancelAfter
    have hstart := passing_startPass hfree hspool (cancelAfter ≠ none)
    have hcut : cancelAfter.map (· + r.requests.length) ≠ none → cancelAfter ≠ none := by simp
    obtain ⟨k, hend⟩ := hstart.finishPass (Nat.le_refl _) hcut
    have hk : (r.replay cancelAfter).1 = k := by
      show (r.startPass.finishPass _ _ (r.patience + 2)).deliveredBy r.system.passes.length = k
      rw [Run.deliveredBy, hend.pass]
      rfl
    rw [hk]
    exact hend.ended
  · intro seen hlong
    obtain ⟨p, hend⟩ := (passing_startPass hfree hspool (true ∈ seen)).passSteps id
    rw [Nat.sub_eq_zero_of_le hlong] at hend
    obtain ⟨-, -, posts, -, hmidway⟩ := id hend
    obtain ⟨k, rfl⟩ := hmidway.eq_over
    exact ⟨k, hend.ended⟩
  · intro before later hchecks
    unfold Run.passSteps
    rw [List.foldl_append]
    exact Run.requests_of_seen hchecks later

/-- A spool of two batches, each of which is tried twice. The collector refuses one request, accepts the next one, and
cannot be reached any more. -/
def failingRun : Run where
  system :=
    { flusher :=
        { routerId := "r"
          maxEvents := 1
          attempts := 2
          spool :=
            { place := .directory ⟨[(Spool.batchName 1, .file [10]), (Spool.batchName 2, .file [20])]⟩
              maxBytes := 9 }
          inbox := .empty 1 } }
  clock := ⟨⟨0, 0⟩, 3⟩
  answers
    | 0 => .status 500
    | 1 => .status 204
    | _ => .broken

/-- One batch is delivered then, and the other one stays. -/
theorem first_batch_delivered :
    failingRun.flusher.replaying = false ∧ failingRun.flusher.spool.Orderly ∧
      PassEnded failingRun 0 (none ≠ (none : Option Nat)) (failingRun.replay none).1 (failingRun.replay none).2 ∧
      (failingRun.replay none).1 = 1 ∧
      (failingRun.replay none).2.flusher.spool.batches = [⟨Spool.batchName 2, [20]⟩] ∧
      (failingRun.replay none).2.requests.reverse = [[10], [10], [20], [20]] := by
  have hspool : failingRun.flusher.spool.Orderly := ⟨_, rfl, by decide +kernel⟩
  exact ⟨rfl, hspool, (longest_prefix_delivered rfl hspool).1 none, by decide +kernel, by decide +kernel,
    by decide +kernel⟩

end RouterTelemetry.Delivery
