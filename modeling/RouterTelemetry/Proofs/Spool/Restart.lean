import RouterTelemetry.Proofs.Spool.Queue
/-!
# The order of batches across restarts

The directory of the spool outlives the spool. A new spool on the same directory does not know which names were
given before, so a name that it gives may be earlier than one that is there, or the same. Main statements:

* `inOrder_step_iff` : what one step does to the order;
* `inOrder_across_restarts_iff` : batches go in the order in which they came exactly as long as each new name is
  later than those of the batches that stay;
* `Tidy.onTime` : a spool that has given all names in its directory gives a later one.

The calls of the file system succeed.
-/

namespace RouterTelemetry.Spool

open Text (Bytes)

/-- When the oldest batch is removed, the others stay. -/
theorem Orderly.batches_ack {s : Spool} (h : s.Orderly) {b : StoredBatch} {rest : List StoredBatch}
    (hbatches : s.batches = b :: rest) : (s.ack b.name).2.batches = rest := by
  obtain ⟨d, hplace, hord⟩ := id h
  have hsorted := h.pairwise_batches
  have hb : d.get? b.name = some (.file b.content) :=
    ((mem_batches_of_place hplace hord).mp (hbatches ▸ List.mem_cons_self ..)).1
  have hack : (s.ack b.name).2 = { s with place := .directory (d.erase b.name) } := by
    simp only [Spool.ack, hplace, hb, if_true]
    rfl
  have hrest : rest.Sublist s.batches := by
    rw [hbatches]
    exact List.sublist_cons_self b rest
  rw [hack, batches_of_place rfl]
  refine eq_of_mem_iff (hord.erase _).pairwise_batches (hsorted.sublist hrest) fun c => ?_
  have hothers := mem_append_iff_of_split hsorted
    (show s.batches = [] ++ b :: rest from hbatches) c
  rw [List.nil_append] at hothers
  rw [← hothers, (hord.erase _).mem_batches, Directory.get?_erase, mem_batches_of_place hplace hord]
  by_cases hname : c.name = b.name
  · simp [hname]
  · simp [hname]

/-- A batch that is stored can be removed. -/
theorem Orderly.ack_of_mem {s : Spool} (h : s.Orderly) {b : StoredBatch} (hb : b ∈ s.batches) :
    (s.ack b.name).1 = .ok () := by
  obtain ⟨d, hplace, hord⟩ := h
  have hget := ((mem_batches_of_place hplace hord).mp hb).1
  simp [Spool.ack, hplace, hget]

/-- The oldest batch is the first one in order. -/
theorem Orderly.dequeueOldest {s : Spool} (h : s.Orderly) :
    s.dequeueOldest = match s.batches with
      | [] => .error .empty
      | b :: _ => .ok b := by
  rw [Spool.dequeueOldest, h.listed?]
  cases s.batches <;> rfl

/-! ## Runs -/

/-- What happens to the spool of a directory. -/
inductive Turn where
  /-- A batch is to be stored. -/
  | enqueue (now : Nat) (payload : Bytes)
  /-- The oldest batch is found and removed. -/
  | deliver
  /-- A new spool takes over what the old one leaves behind. -/
  | restart (maxBytes : Nat)

/-- The batch that is stored, if one is. -/
def entering (s : Spool) (now : Nat) (payload : Bytes) : List StoredBatch :=
  match payload.isEmpty, (s.enqueue now payload).1 with
  | false, .ok _ => [⟨batchName (s.nextNanos now), payload⟩]
  | _, _ => []

/-- The batches that make room. -/
def leaving (s : Spool) (payload : Bytes) : List StoredBatch :=
  if payload.isEmpty then [] else s.evictions payload.length

/-- The spool with the batches that have come in and those that have gone, each in the order in which they
have. -/
structure Books where
  spool : Spool
  entered : List StoredBatch
  left : List StoredBatch := []

namespace Books

/-- The books after a step. -/
def step (b : Books) : Turn → Books
  | .enqueue now payload =>
    { spool := (b.spool.enqueue now payload).2
      entered := b.entered ++ b.spool.entering now payload
      left := b.left ++ b.spool.leaving payload }
  | .deliver =>
    match b.spool.dequeueOldest with
    | .ok oldest => { b with spool := (b.spool.ack oldest.name).2, left := b.left ++ [oldest] }
    | .error _ => b
  | .restart maxBytes => { b with spool := b.spool.reopen maxBytes }

/-- The books after some steps. -/
def steps (b : Books) (ts : List Turn) : Books :=
  ts.foldl step b

/-- Whether batches have gone in the order in which they came, and those that have not gone are stored as they
came and are next in that order. -/
def InOrder (b : Books) : Prop :=
  b.left ++ b.spool.batches = b.entered

instance (b : Books) : Decidable b.InOrder :=
  inferInstanceAs (Decidable (_ = _))

end Books

/-- Whether a batch that is stored is given a later name than those that stay. -/
def OnTime (s : Spool) : Turn → Prop
  | .enqueue now payload => payload ≠ [] →
      ∀ b ∈ s.batches, b ∉ s.evictions payload.length → b.name < batchName (s.nextNanos now)
  | _ => True

/-- Whether each batch that is stored in a run is given a later name than those that stay. -/
def Books.AllOnTime (b : Books) : List Turn → Prop
  | [] => True
  | t :: ts => b.spool.OnTime t ∧ (b.step t).AllOnTime ts

/-! ## What one step does to the order -/

theorem Orderly.step {b : Books} (h : b.spool.Orderly) (t : Turn) : (b.step t).spool.Orderly := by
  cases t with
  | enqueue now p => exact h.enqueue now p {}
  | restart maxBytes => exact h
  | deliver =>
    rw [Books.step]
    split
    · exact h.ack _ {}
    · exact h

/-- A batch that takes the place of one with the same name is listed last, beside all others, exactly when its
name is later than theirs. -/
theorem eq_append_iff {bs rest : List StoredBatch} {new : StoredBatch}
    (hbs : bs.Pairwise fun a b => a.name < b.name) (hrest : rest.Pairwise fun a b => a.name < b.name)
    (hmem : ∀ b, b ∈ bs ↔ b = new ∨ (b ∈ rest ∧ b.name ≠ new.name)) :
    bs = rest ++ [new] ↔ ∀ b ∈ rest, b.name < new.name := by
  constructor
  · rintro rfl b hb
    exact (List.pairwise_append.mp hbs).2.2 b hb new (List.mem_singleton_self _)
  · intro hlt
    refine eq_append_of_lt hbs hrest hlt fun b => ?_
    rw [hmem, or_comm]
    refine or_congr_left ⟨And.left, fun hb => ⟨hb, fun hname => ?_⟩⟩
    exact List.lt_irrefl _ (hname ▸ hlt b hb)

namespace Books

variable {b : Books}

/-- Storing a batch keeps the order exactly when its name is later than those of the batches that stay. -/
theorem inOrder_enqueue_iff (hs : b.spool.Orderly) (h : b.InOrder) (now : Nat) (p : Bytes) :
    (b.step (.enqueue now p)).InOrder ↔ b.spool.OnTime (.enqueue now p) := by
  by_cases hp : p = []
  · subst hp
    refine iff_of_true ?_ (fun hne => absurd rfl hne)
    show b.left ++ [] ++ b.spool.batches = b.entered ++ []
    rwa [List.append_nil, List.append_nil]
  have hne : p.isEmpty = false := by simpa using hp
  obtain ⟨rest, hsplit, -, hcase⟩ := hs.enqueue_default now hp
  have hstays (c : StoredBatch) := mem_rest_iff hs.pairwise_batches hsplit c
  have hleaving : b.spool.leaving p = b.spool.evictions p.length := by
    rw [leaving, hne]
    rfl
  rw [InOrder, hsplit] at h
  rw [InOrder, step, hleaving, ← h, List.append_assoc, List.append_assoc, List.append_cancel_left_eq,
    List.append_assoc, List.append_cancel_left_eq]
  rcases hcase with ⟨-, hfull, -, hrest, hnone⟩ | ⟨-, hok, -, hmem⟩
  · -- nothing is stored, and nothing stays
    have hentering : b.spool.entering now p = [] := by
      rw [entering, hne, hfull]
    refine iff_of_true (by rw [hnone, hrest, hentering]; rfl) fun _ c hc hkept => ?_
    have hmem := (hstays c).mp ⟨hc, hkept⟩
    rw [hrest] at hmem
    exact absurd hmem List.not_mem_nil
  · have hentering : b.spool.entering now p = [⟨batchName (b.spool.nextNanos now), p⟩] := by
      rw [entering, hne, hok]
    have hsub : rest.Sublist b.spool.batches := by
      rw [hsplit]
      exact List.sublist_append_right _ rest
    rw [hentering, eq_append_iff (hs.enqueue now p {}).pairwise_batches
      (hs.pairwise_batches.sublist hsub) hmem]
    exact ⟨fun hlater _ c hc hkept => hlater c ((hstays c).mp ⟨hc, hkept⟩),
      fun hlater c hc => hlater hp c ((hstays c).mpr hc).1 ((hstays c).mpr hc).2⟩

/-- Delivering keeps the order. -/
theorem inOrder_deliver (hs : b.spool.Orderly) (h : b.InOrder) : (b.step .deliver).InOrder := by
  rw [step, dequeueOldest, hs.listed?]
  cases hbatches : b.spool.batches with
  | nil => exact h
  | cons oldest rest =>
    rw [InOrder, hbatches] at h
    show b.left ++ [oldest] ++ (b.spool.ack oldest.name).2.batches = b.entered
    rw [hs.batches_ack hbatches, List.append_assoc, List.singleton_append, h]

/-- **What one step does to the order**: only a batch that is stored too early can upset it. -/
theorem inOrder_step_iff (hs : b.spool.Orderly) (h : b.InOrder) (t : Turn) :
    (b.step t).InOrder ↔ b.spool.OnTime t := by
  cases t with
  | enqueue now p => exact inOrder_enqueue_iff hs h now p
  | deliver => exact iff_of_true (inOrder_deliver hs h) trivial
  | restart maxBytes => exact iff_of_true h trivial

/-- The order is kept throughout a run exactly when each batch in it is on time. -/
theorem inOrder_steps_iff (hs : b.spool.Orderly) (h : b.InOrder) (ts : List Turn) :
    (∀ us, us <+: ts → (b.steps us).InOrder) ↔ b.AllOnTime ts := by
  induction ts generalizing b with
  | nil =>
    refine iff_of_true (fun us hus => ?_) trivial
    obtain rfl := List.prefix_nil.mp hus
    exact h
  | cons t ts ih =>
    have hstep := inOrder_step_iff hs h t
    constructor
    · intro hall
      have hnext : (b.step t).InOrder := hall [t] (List.prefix_append [t] ts)
      refine ⟨hstep.mp hnext, (ih (hs.step t) hnext).mp fun us hus => ?_⟩
      exact hall (t :: us) (List.prefix_cons_inj t |>.mpr hus)
    · rintro ⟨htime, hrest⟩ us hus
      rcases List.prefix_cons_iff.mp hus with rfl | ⟨us', rfl, hus'⟩
      · exact h
      · exact (ih (hs.step t) (hstep.mpr htime)).mpr hrest us' hus'

end Books

/-! ## Whole runs -/

/-- The books of a directory that a spool takes over. -/
def Books.ofDirectory (d : Directory) (maxBytes : Nat) : Books :=
  { spool := { place := .directory d, maxBytes }, entered := d.batches }

/-- **Batches go in the order in which they came, across restarts, as long as each new name is later** than
those of the batches that stay. Then none is replaced, and none is changed. Otherwise the order is lost. -/
theorem inOrder_across_restarts_iff {d : Directory} (hd : d.Ordered) (maxBytes : Nat)
    (ts : List Turn) :
    (∀ us, us <+: ts → ((Books.ofDirectory d maxBytes).steps us).InOrder) ↔
      (Books.ofDirectory d maxBytes).AllOnTime ts := by
  have hstart : (Books.ofDirectory d maxBytes).InOrder := rfl
  exact Books.inOrder_steps_iff ⟨d, rfl, hd⟩ hstart ts

/-- A clock that stands still within one run, and has gone on after a restart. -/
theorem inOrder_of_later_clock :
    ({} : Directory).Ordered ∧
      ∀ us, us <+: [.enqueue 5 [1], .enqueue 5 [2], .restart 10, .enqueue 7 [3], .deliver] →
        ((Books.ofDirectory {} 10).steps us).InOrder :=
  ⟨List.Pairwise.nil, (inOrder_across_restarts_iff List.Pairwise.nil 10 _).mpr
    ⟨fun _ => by decide, fun _ => by decide, trivial, fun _ => by decide, trivial, trivial⟩⟩

/-- A clock that reads earlier after a restart: the batch that came last goes first. And one that reads the same:
the batch that came last takes the place of the one that is there, which is lost. -/
theorem not_inOrder_of_earlier_clock :
    let earlier := (Books.ofDirectory {} 10).steps [.enqueue 5 [1], .restart 10, .enqueue 3 [2]]
    let same := (Books.ofDirectory {} 10).steps [.enqueue 5 [1], .restart 10, .enqueue 5 [2]]
    (¬ earlier.InOrder ∧ earlier.spool.dequeueOldest = .ok ⟨batchName 3, [2]⟩) ∧
      (¬ same.InOrder ∧ same.left = [] ∧ same.spool.batches = [⟨batchName 5, [2]⟩]) := by
  refine ⟨⟨?_, ?_⟩, ?_, ?_, ?_⟩ <;> decide +kernel

/-! ## Names that are late enough -/

/-- A batch is on time when its time is later than those in the names of the batches that are there. -/
theorem onTime_of_lt {s : Spool} {now : Nat} (p : Bytes)
    (h : ∀ b ∈ s.batches, ∃ k < s.nextNanos now, b.name = batchName k)
    (hdigits : s.nextNanos now < 10 ^ 20) : s.OnTime (.enqueue now p) := by
  intro _ b hb _
  obtain ⟨k, hk, hname⟩ := h b hb
  rw [hname]
  exact batchName_lt_batchName hk hdigits

/-- As long as a spool has given all names in its directory, each batch is on time, whatever the clock reads. -/
theorem Tidy.onTime {s : Spool} (h : s.Tidy) (now : Nat) (p : Bytes)
    (hdigits : s.nextNanos now < 10 ^ 20) : s.OnTime (.enqueue now p) := by
  refine onTime_of_lt p (fun b hb => ?_) hdigits
  obtain ⟨k, hk, hname⟩ := h.exists_batchName hb
  exact ⟨k, Nat.lt_of_le_of_lt hk (lastNanos_lt_nextNanos s now), hname⟩

end RouterTelemetry.Spool
