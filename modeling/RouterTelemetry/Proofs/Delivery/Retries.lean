import RouterTelemetry.Delivery.Shipment
import RouterTelemetry.Proofs.Text.Digits
import RouterTelemetry.Retry.Backoff
/-!
# Delivery with retries

A payload is shipped attempt by attempt, until one succeeds, the attempts are used up, or the call sees that it is
cancelled. `Shipping` is a call in progress with the bodies of the requests that it has made. Main statements:

* `Tried.step`, `Tried.steps` : what one attempt, and any number of them, leave of a call;
* `run_eq` : the whole call at once comes to what its attempts come to one by one;
* `Ending` : how a call ends, with what follows for its requests and its result;
* `get_counted`, `sendErrors_counted` : what is counted for the answers to some requests;
* `retried` : how many requests a call makes, what it returns and what it counts.
-/

namespace RouterTelemetry.Delivery

open Text (Bytes)

/-! ## Calls in progress -/

/-- When a call sees that it is cancelled: at the check before an attempt, or while it waits for the attempt. -/
structure Notice where
  atCheck : Nat → Bool
  inWait : Nat → Bool

/-- Whether a call stops before an attempt. The first attempt is not waited for. -/
def Notice.stops (c : Notice) (attempt : Nat) : Bool :=
  c.atCheck attempt || (attempt != 0 && c.inWait attempt)

/-- A call that delivers a payload: how far it is, the counters, and the bodies of the requests it has made. -/
structure Shipping where
  shipment : Shipment := .due 0
  stats : Stats
  bodies : List Bytes := []

namespace Shipping

section Steps

variable (payload : Bytes) (limit : Nat) (cancelled : Nat → Bool) (replies : Nat → Reply)

/-- The call after its next attempt, if it makes one. -/
def step (s : Shipping) : Shipping :=
  match s.shipment with
  | .over _ => s
  | .due failed =>
    let asks := s.shipment.makesRequest (cancelled failed)
    { shipment := s.shipment.step limit (cancelled failed) (replies failed)
      stats := if asks then countReply s.stats (replies failed) else s.stats
      bodies := if asks then s.bodies ++ [payload] else s.bodies }

/-- The call after some attempts. -/
def steps : Nat → Shipping → Shipping
  | 0, s => s
  | n + 1, s => steps n (s.step payload limit cancelled replies)

end Steps

end Shipping

/-- Whether an answer is no success. -/
def Reply.Fails (reply : Reply) : Prop :=
  ∃ e, reply.result = .error e

/-- The counters after the answers to the first `n` requests. -/
def counted (replies : Nat → Reply) (stats : Stats) (n : Nat) : Stats :=
  ((List.range n).map replies).foldl countReply stats

theorem counted_succ (replies : Nat → Reply) (stats : Stats) (n : Nat) :
    counted replies stats (n + 1) = countReply (counted replies stats n) (replies n) := by
  unfold counted
  rw [List.range_succ, List.map_append, List.foldl_append]
  rfl

/-! ## What attempts leave of a call -/

section Tries

variable {payload : Bytes} {limit : Nat} {cancelled : Nat → Bool} {replies : Nat → Reply} {stats : Stats}

/-- The first `n` attempts were made, and all have failed. -/
structure Failed (cancelled : Nat → Bool) (replies : Nat → Reply) (n : Nat) : Prop where
  live : ∀ j < n, cancelled j = false
  refused : ∀ j < n, (replies j).Fails

theorem Failed.succ {n : Nat} (h : Failed cancelled replies n) (hlive : cancelled n = false)
    (hfails : (replies n).Fails) : Failed cancelled replies (n + 1) := by
  constructor
  · exact Nat.forall_lt_succ_right.mpr ⟨h.live, hlive⟩
  · exact Nat.forall_lt_succ_right.mpr ⟨h.refused, hfails⟩

/-- With no attempt made, none has failed. -/
theorem Failed.zero : Failed cancelled replies 0 :=
  ⟨fun j hj => absurd hj (Nat.not_lt_zero j), fun j hj => absurd hj (Nat.not_lt_zero j)⟩

variable (limit cancelled replies) in
/-- How a call ends that has made so many requests, and with which result: the last one succeeds, or the attempts are
used up, or the call sees that it is cancelled. -/
inductive Ending : Nat → Except Failure Unit → Prop
  | accepted (n : Nat) (more : n < limit) (failed : Failed cancelled replies n) (live : cancelled n = false)
      (ok : (replies n).result = .ok ()) : Ending (n + 1) (.ok ())
  | exhausted (n : Nat) (e : Failure) (last : n + 1 = limit) (failed : Failed cancelled replies (n + 1))
      (error : (replies n).result = .error e) : Ending (n + 1) (.error e)
  | stopped (n : Nat) (more : n < limit) (failed : Failed cancelled replies n) (seen : cancelled n = true) :
      Ending n (.error .cancelled)

variable (payload limit cancelled replies stats) in
/-- What some attempts leave of a call. -/
inductive Tried : Shipping → Prop
  | due (n : Nat) (more : n < limit) (failed : Failed cancelled replies n) :
      Tried ⟨.due n, counted replies stats n, List.replicate n payload⟩
  | ended (k : Nat) (r : Except Failure Unit) (ending : Ending limit cancelled replies k r) :
      Tried ⟨.over r, counted replies stats k, List.replicate k payload⟩

/-- **One attempt.** -/
theorem Tried.step {s : Shipping} (h : Tried payload limit cancelled replies stats s) :
    Tried payload limit cancelled replies stats (s.step payload limit cancelled replies) := by
  cases h with
  | due n more failed =>
    unfold Shipping.step
    cases hc : cancelled n with
    | true =>
      simp only [Shipment.makesRequest, Shipment.step, hc]
      exact .ended n _ (.stopped n more failed hc)
    | false =>
      simp only [Shipment.makesRequest, Shipment.step, hc, Bool.not_false, if_true,
        ← List.replicate_succ', ← counted_succ]
      cases hr : (replies n).result with
      | ok _ => exact .ended (n + 1) _ (.accepted n more failed hc hr)
      | error e =>
        have hfailed : Failed cancelled replies (n + 1) := failed.succ hc ⟨e, hr⟩
        by_cases hmore : n + 1 < limit
        · simp only [Bool.false_eq_true, if_false, if_pos hmore]
          exact .due (n + 1) hmore hfailed
        · simp only [Bool.false_eq_true, if_false, if_neg hmore]
          exact .ended (n + 1) _ (.exhausted n e (by omega) hfailed hr)
  | ended k r ending => exact .ended k r ending

/-- Any number of attempts. -/
theorem Tried.steps {s : Shipping} (h : Tried payload limit cancelled replies stats s) (n : Nat) :
    Tried payload limit cancelled replies stats (s.steps payload limit cancelled replies n) := by
  induction n generalizing s with
  | zero => exact h
  | succ n ih => exact ih h.step

/-- A call that is over makes no more attempts. -/
theorem Shipping.steps_of_over {s : Shipping} {r : Except Failure Unit} (h : s.shipment = .over r) (n : Nat) :
    s.steps payload limit cancelled replies n = s := by
  induction n with
  | zero => rfl
  | succ n ih =>
    show (s.step payload limit cancelled replies).steps payload limit cancelled replies n = s
    have hstep : s.step payload limit cancelled replies = s := by
      unfold Shipping.step
      rw [h]
    rw [hstep, ih]

/-- A call that has failed `n` times is over when its attempts are used up, and comes to what the whole call does. -/
theorem run_eq {s : Shipping} {n : Nat} (hdue : s.shipment = .due n) (hbodies : s.bodies.length = n)
    (hmore : n < limit) (fuel : Nat) (hfuel : limit ≤ n + fuel) :
    ∃ r, (s.steps payload limit cancelled replies fuel).shipment = .over r ∧
      Shipment.run limit cancelled replies (fuel + 1) n s.stats =
        (r, (s.steps payload limit cancelled replies fuel).stats,
          (s.steps payload limit cancelled replies fuel).bodies.length) := by
  induction fuel generalizing s n with
  | zero => omega
  | succ fuel ih =>
    obtain ⟨shipment, stats, bodies⟩ := s
    obtain rfl : shipment = .due n := hdue
    replace hbodies : bodies.length = n := hbodies
    unfold Shipping.steps Shipment.run
    cases hc : cancelled n with
    | true =>
      -- nothing is asked any more
      have hstep : Shipping.step payload limit cancelled replies ⟨.due n, stats, bodies⟩ =
          ⟨.over (.error .cancelled), stats, bodies⟩ := by
        simp [Shipping.step, Shipment.step, Shipment.makesRequest, hc]
      rw [hstep, Shipping.steps_of_over rfl, if_pos rfl, hbodies]
      exact ⟨_, rfl, rfl⟩
    | false =>
      have hstep : Shipping.step payload limit cancelled replies ⟨.due n, stats, bodies⟩ =
          ⟨(Shipment.due n).step limit false (replies n), countReply stats (replies n), bodies ++ [payload]⟩ := by
        simp [Shipping.step, Shipment.makesRequest, hc]
      have hlength : (bodies ++ [payload]).length = n + 1 := by rw [List.length_append, hbodies]; rfl
      rw [hstep, if_neg Bool.false_ne_true]
      dsimp only
      rcases hnext : (Shipment.due n).step limit false (replies n) with m | r
      · -- another attempt follows, which is the next one in number
        obtain ⟨rfl, hm⟩ : m = n + 1 ∧ n + 1 < limit := by
          simp only [Shipment.step, Bool.false_eq_true, if_false] at hnext
          split at hnext
          · exact Shipment.noConfusion hnext
          · split at hnext
            · next hlt => exact ⟨(Shipment.due.inj hnext).symm, hlt⟩
            · exact Shipment.noConfusion hnext
        exact ih rfl hlength hm (by omega)
      · rw [Shipping.steps_of_over rfl]
        exact ⟨r, rfl, by rw [hlength]⟩

end Tries

/-! ## What is counted -/

/-- The label under which an answer is counted that is no success: that of its status, if it has one. -/
def Reply.errorLabel? : Reply → Option String
  | .broken => some "net"
  | .status code => if 200 ≤ code ∧ code < 300 then none else some (toString code)

/-- An answer either counts as delivered or as an error with a label. -/
theorem errorLabel?_cases (reply : Reply) :
    (reply.result = .ok () ∧ reply.errorLabel? = none) ∨
      ∃ e, reply.result = .error e ∧ reply.errorLabel? = some e.label := by
  cases reply with
  | broken => exact Or.inr ⟨.transport, rfl, rfl⟩
  | status code =>
    simp only [Reply.result, Reply.errorLabel?]
    by_cases h : 200 ≤ code ∧ code < 300
    · rw [if_pos h, if_pos h]
      exact Or.inl ⟨rfl, rfl⟩
    · rw [if_neg h, if_neg h]
      exact Or.inr ⟨.status code, rfl, rfl⟩

/-- No answer is counted as a cancellation. -/
theorem errorLabel?_ne_cancelled (reply : Reply) : reply.errorLabel? ≠ some Failure.cancelled.label := by
  cases reply with
  | broken => decide
  | status code =>
    intro h
    have hlabel : toString code = Failure.cancelled.label := by
      simp only [Reply.errorLabel?, Option.ite_none_left_eq_some, Option.some.injEq] at h
      exact h.2
    -- a status is written with digits
    have hdigit : ∀ c ∈ (toString code).toList, c.isDigit = true := by
      intro c hc
      rw [show (toString code).toList = Nat.toDigits 10 code from String.toList_ofList ..] at hc
      exact Nat.isDigit_of_mem_toDigits (by decide) (by decide) hc
    rw [hlabel] at hdigit
    exact absurd (hdigit 'c' (by decide)) (by decide)

theorem get_countReply (stats : Stats) (reply : Reply) :
    (countReply stats reply).get .httpBatchesSent =
      stats.get .httpBatchesSent + (if reply.errorLabel?.isNone then 1 else 0) := by
  unfold countReply
  rcases errorLabel?_cases reply with ⟨hok, hlabel⟩ | ⟨e, he, hlabel⟩
  · simp [hok, hlabel]
  · rw [he, hlabel]
    rfl

theorem sendErrors_countReply (stats : Stats) (reply : Reply) (label : String) :
    (countReply stats reply).sendErrors.get label =
      stats.sendErrors.get label + reply.errorLabel?.toList.count label := by
  unfold countReply
  rcases errorLabel?_cases reply with ⟨hok, hlabel⟩ | ⟨e, he, hlabel⟩
  · rw [hok, hlabel]
    rfl
  · rw [he, hlabel]
    show (stats.sendErrors.incr e.label).get label = _
    rw [Tally.get_incr, Option.toList_some]
    by_cases h : label = e.label
    · simp [h]
    · simp [h, Ne.symm h]

/-- How many of the first `n` answers count as delivered. -/
theorem get_counted (replies : Nat → Reply) (stats : Stats) (n : Nat) :
    (counted replies stats n).get .httpBatchesSent =
      stats.get .httpBatchesSent + (List.range n).countP fun i => (replies i).errorLabel?.isNone := by
  induction n with
  | zero => rfl
  | succ n ih =>
    rw [counted_succ, get_countReply, ih, List.range_succ, List.countP_append, List.countP_singleton, Nat.add_assoc]

/-- How many of the first `n` answers are counted under a label. -/
theorem sendErrors_counted (replies : Nat → Reply) (stats : Stats) (n : Nat) (label : String) :
    (counted replies stats n).sendErrors.get label =
      stats.sendErrors.get label + ((List.range n).filterMap fun i => (replies i).errorLabel?).count label := by
  induction n with
  | zero => rfl
  | succ n ih =>
    rw [counted_succ, sendErrors_countReply, ih, List.range_succ, List.filterMap_append, List.count_append,
      Nat.add_assoc]
    rfl

/-- As long as all attempts have failed, none counts as delivered. -/
theorem get_counted_of_failed {cancelled : Nat → Bool} {replies : Nat → Reply} {n : Nat}
    (h : Failed cancelled replies n) (stats : Stats) :
    (counted replies stats n).get .httpBatchesSent = stats.get .httpBatchesSent := by
  have hnone : (List.range n).countP (fun i => (replies i).errorLabel?.isNone) = 0 := by
    rw [List.countP_eq_zero]
    intro i hi
    obtain ⟨e, he⟩ := h.refused i (List.mem_range.mp hi)
    rcases errorLabel?_cases (replies i) with ⟨hok, -⟩ | ⟨e', -, hlabel⟩
    · exact absurd (hok.symm.trans he) (by simp)
    · simp [hlabel]
  rw [get_counted, hnone, Nat.add_zero]

/-! ## Endings -/

/-- No answer says that a call was cancelled. -/
theorem Reply.result_ne_cancelled (reply : Reply) : reply.result ≠ .error .cancelled := by
  intro h
  rcases errorLabel?_cases reply with ⟨hok, -⟩ | ⟨e, he, hlabel⟩
  · exact absurd (hok.symm.trans h) (by simp)
  · obtain rfl := Except.error.inj (he.symm.trans h)
    exact errorLabel?_ne_cancelled reply hlabel

/-- An answer is not a success and a failure. -/
theorem Reply.Fails.ne_ok {reply : Reply} (h : reply.Fails) : reply.result ≠ .ok () := by
  obtain ⟨e, he⟩ := h
  rw [he]
  simp

namespace Ending

variable {limit : Nat} {cancelled : Nat → Bool} {replies : Nat → Reply} {k : Nat} {r : Except Failure Unit}

theorem count_le (h : Ending limit cancelled replies k r) : k ≤ limit := by
  cases h with
  | accepted n more => exact more
  | exhausted n e last => exact Nat.le_of_eq last
  | stopped n more => exact Nat.le_of_lt more

theorem refused (h : Ending limit cancelled replies k r) {i : Nat} (hi : i + 1 < k) : (replies i).Fails := by
  cases h with
  | accepted n more failed => exact failed.refused i (by omega)
  | exhausted n e last failed => exact failed.refused i (by omega)
  | stopped n more failed => exact failed.refused i (by omega)

theorem ok_iff (h : Ending limit cancelled replies k r) :
    r = .ok () ↔ ∃ i, k = i + 1 ∧ (replies i).result = .ok () := by
  cases h with
  | accepted n more failed live ok => exact ⟨fun _ => ⟨n, rfl, ok⟩, fun _ => rfl⟩
  | exhausted n e last failed error =>
    constructor
    · intro h
      exact absurd h (by simp)
    · rintro ⟨i, hi, hok⟩
      exact absurd hok (failed.refused i (by omega)).ne_ok
  | stopped n more failed seen =>
    constructor
    · intro h
      exact absurd h (by simp)
    · rintro ⟨i, hi, hok⟩
      exact absurd hok (failed.refused i (by omega)).ne_ok

theorem eq_last_of_failed (h : Ending limit cancelled replies k r) (hall : Failed cancelled replies limit) :
    ∃ i, i + 1 = limit ∧ k = limit ∧ r = (replies i).result := by
  cases h with
  | accepted n more failed live ok => exact absurd ok (hall.refused n more).ne_ok
  | exhausted n e last failed error => exact ⟨n, last, last, error.symm⟩
  | stopped n more failed seen => exact absurd seen (by simp [hall.live k more])

/-- A call ends at the first attempt before which it sees that it is cancelled. -/
theorem stopped_at (h : Ending limit cancelled replies k r) {i : Nat} (hi : i < limit)
    (hfailed : Failed cancelled replies i) (hseen : cancelled i = true) : k = i ∧ r = .error .cancelled := by
  cases h with
  | accepted n more failed live ok =>
    rcases Nat.lt_trichotomy n i with hlt | rfl | hlt
    · exact absurd ok (hfailed.refused n hlt).ne_ok
    · exact absurd hseen (by simp [live])
    · exact absurd hseen (by simp [failed.live i hlt])
  | exhausted n e last failed error => exact absurd hseen (by simp [failed.live i (by omega)])
  | stopped n more failed seen =>
    rcases Nat.lt_trichotomy k i with hlt | rfl | hlt
    · exact absurd seen (by simp [hfailed.live k hlt])
    · exact ⟨rfl, rfl⟩
    · exact absurd hseen (by simp [failed.live i hlt])

theorem seen (h : Ending limit cancelled replies k r) (hr : r = .error .cancelled) : cancelled k = true := by
  cases h with
  | accepted n more failed live ok => exact absurd hr (by simp)
  | exhausted n e last failed error => exact absurd (error.trans hr) (replies n).result_ne_cancelled
  | stopped n more failed seen => exact seen

/-- A batch counts as sent just if the call succeeds. -/
theorem sent (h : Ending limit cancelled replies k r) (stats : Stats) :
    (counted replies stats k).get .httpBatchesSent = stats.get .httpBatchesSent + if r.isOk then 1 else 0 := by
  cases h with
  | accepted n more failed live ok =>
    have hlabel : (replies n).errorLabel? = none := by
      rcases errorLabel?_cases (replies n) with ⟨-, hlabel⟩ | ⟨e, he, -⟩
      · exact hlabel
      · exact absurd (ok.symm.trans he) (by simp)
    rw [counted_succ, get_countReply, get_counted_of_failed failed, hlabel]
    rfl
  | exhausted n e last failed error => exact get_counted_of_failed failed stats
  | stopped n more failed seen => exact get_counted_of_failed failed stats

end Ending

/-! ## Whole calls -/

theorem length_delaysFrom (base attempt count : Nat) (g : Retry.Generator) :
    (Retry.delaysFrom base attempt count g).length = count := by
  induction count generalizing attempt g with
  | zero => rfl
  | succ count ih =>
    unfold Retry.delaysFrom
    rw [List.length_cons, ih]

/-- There is a delay for each attempt. -/
theorem length_schedule (base attempts : Nat) (g : Retry.Generator) :
    (Retry.schedule base attempts g).length = Shipment.limit attempts := by
  unfold Retry.schedule Shipment.limit
  rw [length_delaysFrom, Nat.max_comm]

theorem Notice.stops_iff (c : Notice) (i : Nat) :
    c.stops i = true ↔ c.atCheck i = true ∨ (0 < i ∧ c.inWait i = true) := by
  simp [Notice.stops, Nat.pos_iff_ne_zero]

/-- A call that has made as many attempts as there are for it. -/
def Shipping.made (payload : Bytes) (attempts : Nat) (notice : Notice) (replies : Nat → Reply) (stats : Stats) :
    Shipping :=
  Shipping.steps payload (Shipment.limit attempts) notice.stops replies (Shipment.limit attempts) { stats }

/-- The call is over then. The whole of it at once comes to the same. -/
theorem made_eq (payload : Bytes) (attempts : Nat) (notice : Notice) (replies : Nat → Reply) (stats : Stats) :
    ∃ k r, Ending (Shipment.limit attempts) notice.stops replies k r ∧
      Shipping.made payload attempts notice replies stats =
        ⟨.over r, counted replies stats k, List.replicate k payload⟩ ∧
      shipWithRetry attempts notice.stops replies stats = (r, counted replies stats k, k) := by
  have hpos : 0 < Shipment.limit attempts := Nat.lt_of_lt_of_le Nat.one_pos (Nat.le_max_left 1 attempts)
  have hstart : Tried payload (Shipment.limit attempts) notice.stops replies stats { stats } := .due 0 hpos .zero
  have htried : Tried payload _ notice.stops replies stats (Shipping.made payload attempts notice replies stats) :=
    hstart.steps (Shipment.limit attempts)
  have hrun : ∃ r, (Shipping.made payload attempts notice replies stats).shipment = .over r ∧
      shipWithRetry attempts notice.stops replies stats =
        (r, (Shipping.made payload attempts notice replies stats).stats,
          (Shipping.made payload attempts notice replies stats).bodies.length) :=
    run_eq rfl rfl hpos _ (Nat.le_add_left ..)
  obtain ⟨r, hover, hrun⟩ := hrun
  generalize Shipping.made payload attempts notice replies stats = call at hover hrun htried
  cases htried with
  | due n more failed => exact Shipment.noConfusion hover
  | ended k r' ending =>
    obtain rfl := Shipment.over.inj hover
    exact ⟨k, r', ending, rfl, by rw [hrun, List.length_replicate]⟩

/-- What is known of a call that delivers a payload with retries, and of its result. -/
structure Retried (payload : Bytes) (attempts : Nat) (notice : Notice) (replies : Nat → Reply) (stats : Stats)
    (call : Shipping) (result : Except Failure Unit) : Prop where
  /-- The call is over, and the whole of it at once comes to the same. -/
  ended : call.shipment = .over result
  computed : shipWithRetry attempts notice.stops replies stats = (result, call.stats, call.bodies.length)
  /-- Each request carries the payload, and there are no more of them than attempts, for each of which there is a
  delay. -/
  payloads : ∀ b ∈ call.bodies, b = payload
  bounded : call.bodies.length ≤ max 1 attempts
  scheduled : ∀ base g, (Retry.schedule base attempts g).length = max 1 attempts
  /-- None is made after the first success, and the result is a success just if the last one was. -/
  refused : ∀ i, i + 1 < call.bodies.length → (replies i).Fails
  ok_iff : result = .ok () ↔ ∃ i, call.bodies.length = i + 1 ∧ (replies i).result = .ok ()
  /-- Where nothing succeeds and nothing is cancelled, all attempts are made, and the last error is returned. -/
  exhausted : Failed notice.stops replies (max 1 attempts) →
    ∃ i, i + 1 = max 1 attempts ∧ call.bodies.length = max 1 attempts ∧ result = (replies i).result
  /-- A call that was cancelled before makes no request. -/
  cancelledBefore : notice.atCheck 0 = true → call.bodies = [] ∧ result = .error .cancelled
  /-- One that sees it later, at a check or while it waits, makes no request more. -/
  cancelledLater : ∀ i < max 1 attempts, Failed notice.stops replies i →
    notice.atCheck i = true ∨ (0 < i ∧ notice.inWait i = true) →
      call.bodies.length = i ∧ result = .error .cancelled
  /-- No other call returns that it was cancelled. -/
  seen : result = .error .cancelled → notice.stops call.bodies.length = true
  /-- A success counts as one batch sent, and each failed request under its own label; a cancellation does not
  count. -/
  sent : call.stats.get .httpBatchesSent = stats.get .httpBatchesSent + if result.isOk then 1 else 0
  errors : ∀ label, call.stats.sendErrors.get label = stats.sendErrors.get label +
    ((List.range call.bodies.length).filterMap fun i => (replies i).errorLabel?).count label
  uncounted : call.stats.sendErrors.get Failure.cancelled.label = stats.sendErrors.get Failure.cancelled.label

/-- **Retries are bounded, stop at the first success and are counted exactly.** -/
theorem retried (payload : Bytes) (attempts : Nat) (notice : Notice) (replies : Nat → Reply) (stats : Stats) :
    ∃ result, Retried payload attempts notice replies stats
      (Shipping.made payload attempts notice replies stats) result := by
  obtain ⟨k, r, ending, hmade, hrun⟩ := made_eq payload attempts notice replies stats
  have hlength : (List.replicate k payload).length = k := List.length_replicate ..
  rw [hmade]
  refine ⟨r, ?_⟩
  constructor
  case ended => rfl
  case computed => rw [hrun, hlength]
  case payloads => exact fun b hb => List.eq_of_mem_replicate hb
  case bounded =>
    rw [hlength]
    exact ending.count_le
  case scheduled => exact fun base g => length_schedule base attempts g
  case refused =>
    rw [hlength]
    exact fun i hi => ending.refused hi
  case ok_iff =>
    rw [hlength]
    exact ending.ok_iff
  case exhausted =>
    rw [hlength]
    exact ending.eq_last_of_failed
  case cancelledBefore =>
    intro h
    obtain ⟨rfl, hr⟩ := ending.stopped_at (Nat.lt_of_lt_of_le Nat.one_pos (Nat.le_max_left 1 attempts)) .zero
      ((notice.stops_iff 0).mpr (Or.inl h))
    exact ⟨rfl, hr⟩
  case cancelledLater =>
    rw [hlength]
    exact fun i hi hfailed h => ending.stopped_at hi hfailed ((notice.stops_iff i).mpr h)
  case seen =>
    rw [hlength]
    exact ending.seen
  case sent => exact ending.sent stats
  case errors =>
    rw [hlength]
    exact sendErrors_counted replies stats k
  case uncounted =>
    have hnone : ((List.range k).filterMap fun i => (replies i).errorLabel?).count Failure.cancelled.label = 0 := by
      rw [List.count_eq_zero]
      intro h
      obtain ⟨i, -, hi⟩ := List.mem_filterMap.mp h
      exact errorLabel?_ne_cancelled (replies i) hi
    show (counted replies stats k).sendErrors.get Failure.cancelled.label = _
    rw [sendErrors_counted, hnone, Nat.add_zero]

end RouterTelemetry.Delivery
