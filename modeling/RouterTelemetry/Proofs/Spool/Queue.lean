import Mathlib.Data.List.Sort
import RouterTelemetry.Proofs.Spool.Contents
/-!
# The spool as a queue

A spool that alone touches its directory is a queue of payloads whose total size is bounded. `Queue.Step` says
what each call of such a queue answers and leaves behind, with no mention of files, numbers or time; the name
of a payload only tells it from the others. Main statement: `refines_queue`, for any calls at any times.
-/

namespace RouterTelemetry.Spool

open Text (Bytes)

/-! ## Calls -/

/-- A call of the spool. -/
inductive Call where
  | enqueue (now : Nat) (payload : Bytes)
  | dequeueOldest
  | ack (name : Name)
  | sizeBytes
  | count

/-- What a call answers. -/
inductive Answer where
  | done (result : Except Error Unit)
  | found (result : Except Error StoredBatch)
  | number (n : Nat)

/-- What a call answers, and the spool after it. -/
def call (s : Spool) : Call → Answer × Spool
  | .enqueue now payload => ((.done (s.enqueue now payload).1), (s.enqueue now payload).2)
  | .dequeueOldest => (.found s.dequeueOldest, s)
  | .ack name => (.done (s.ack name).1, (s.ack name).2)
  | .sizeBytes => (.number s.sizeBytes, s)
  | .count => (.number s.count, s)

/-- What calls answer one after the other. -/
def answers (s : Spool) : List Call → List Answer
  | [] => []
  | c :: cs => (s.call c).1 :: answers (s.call c).2 cs

/-- The spool after some calls. -/
def calls (s : Spool) (cs : List Call) : Spool :=
  cs.foldl (fun s c => (s.call c).2) s

/-! ## The queue -/

/-- A queue of payloads in the order in which they came, each with a name of its own, and all names that
were ever used. -/
structure Queue where
  items : List StoredBatch := []
  used : List Name := []

/-- What a call of a queue that holds `cap` bytes at most answers and leaves behind. -/
inductive Queue.Step (cap : Nat) : Queue → Call → Answer → Queue → Prop
  | enqueue_empty (q : Queue) (now : Nat) : Step cap q (.enqueue now []) (.done (.ok ())) q
  /-- The shortest part in front goes that makes room. -/
  | enqueue_fits (q : Queue) (now : Nat) (p : Bytes) (name : Name) (gone rest : List StoredBatch)
      (nonempty : 0 < p.length) (fits : p.length ≤ cap) (split : q.items = gone ++ rest)
      (room : totalSize rest + p.length ≤ cap)
      (shortest : ∀ gone' rest', q.items = gone' ++ rest' → totalSize rest' + p.length ≤ cap →
        gone.length ≤ gone'.length)
      (fresh : name ∉ q.used) :
      Step cap q (.enqueue now p) (.done (.ok ())) ⟨rest ++ [⟨name, p⟩], name :: q.used⟩
  | enqueue_full (q : Queue) (now : Nat) (p : Bytes) (large : cap < p.length) :
      Step cap q (.enqueue now p) (.done (.error (.full p.length cap))) { q with items := [] }
  | dequeue (q : Queue) (b : StoredBatch) (rest : List StoredBatch) (head : q.items = b :: rest) :
      Step cap q .dequeueOldest (.found (.ok b)) q
  | dequeue_empty (q : Queue) (empty : q.items = []) :
      Step cap q .dequeueOldest (.found (.error .empty)) q
  | ack (q : Queue) (b : StoredBatch) (front back : List StoredBatch)
      (split : q.items = front ++ b :: back) :
      Step cap q (.ack b.name) (.done (.ok ())) { q with items := front ++ back }
  /-- To remove what is not there changes nothing. -/
  | ack_gone (q : Queue) (name : Name) (gone : ∀ b ∈ q.items, b.name ≠ name) :
      Step cap q (.ack name) (.done (.ok ())) q
  | sizeBytes (q : Queue) (bound : totalSize q.items ≤ cap) :
      Step cap q .sizeBytes (.number (totalSize q.items)) q
  | count (q : Queue) : Step cap q .count (.number q.items.length) q

/-- What calls one after the other answer and leave behind. -/
inductive Queue.Run (cap : Nat) : Queue → List Call → List Answer → Queue → Prop
  | nil (q : Queue) : Run cap q [] [] q
  | cons {q q' q'' : Queue} {c : Call} {cs : List Call} {a : Answer} {as : List Answer}
      (step : Step cap q c a q') (rest : Run cap q' cs as q'') : Run cap q (c :: cs) (a :: as) q''

/-! ## Eviction without failures -/

theorem totalSize_cons (b : StoredBatch) (bs : List StoredBatch) :
    totalSize (b :: bs) = b.size + totalSize bs := rfl

theorem totalSize_append (as bs : List StoredBatch) :
    totalSize (as ++ bs) = totalSize as + totalSize bs := by
  induction as with
  | nil => rw [List.nil_append, totalSize, Nat.zero_add]
  | cons a as ih => rw [List.cons_append, totalSize_cons, totalSize_cons, ih, Nat.add_assoc]

/-- What makes room is the shortest part in front that does, or everything. -/
theorem evicted_split (cap needed : Nat) (bs : List StoredBatch) :
    ∃ rest, bs = evicted {} cap needed (totalSize bs) bs ++ rest ∧
      (rest = [] ∨ totalSize rest + needed ≤ cap) ∧
      ∀ gone' rest', bs = gone' ++ rest' → totalSize rest' + needed ≤ cap →
        (evicted {} cap needed (totalSize bs) bs).length ≤ gone'.length := by
  induction bs with
  | nil => exact ⟨[], rfl, Or.inl rfl, fun _ _ _ _ => Nat.zero_le _⟩
  | cons b bs ih =>
    obtain ⟨rest, hsplit, hroom, hshort⟩ := ih
    rw [evicted]
    by_cases hfit : totalSize (b :: bs) + needed ≤ cap
    · rw [if_pos hfit]
      exact ⟨b :: bs, rfl, Or.inr hfit, fun _ _ _ _ => Nat.zero_le _⟩
    · have hsub : totalSize (b :: bs) - b.size = totalSize bs := by
        rw [totalSize_cons, Nat.add_sub_cancel_left]
      rw [if_neg hfit, if_pos rfl, hsub]
      refine ⟨rest, by rw [List.cons_append, ← hsplit], hroom, ?_⟩
      intro gone' rest' heq hle
      -- to let nothing go is not enough, so any other part in front begins with `b` as well
      cases gone' with
      | nil =>
        rw [List.nil_append] at heq
        exact absurd (heq ▸ hle) hfit
      | cons c gone' =>
        have htail : bs = gone' ++ rest' := (List.cons.inj heq).2
        exact Nat.succ_le_succ (hshort gone' rest' htail hle)

/-! ## The spool behaves as the queue -/

/-- The spool and the queue hold the same batches in the same order, not too many, and the spool has given
all names that the queue has used. -/
structure Refines (s : Spool) (q : Queue) : Prop where
  tidy : s.Tidy
  items : s.batches = q.items
  bound : totalSize q.items ≤ s.maxBytes
  used : ∀ n ∈ q.used, s.Gave n

theorem listed?_default (s : Spool) : s.listed? {} = s.batches? := by
  rw [listed?, if_pos rfl]
  cases s.batches? with
  | none => rfl
  | some bs => rw [Option.map_some, List.filter_eq_self.mpr fun _ _ => rfl]

/-- Without failures the whole directory is listed. -/
theorem Orderly.listed? {s : Spool} (h : s.Orderly) : s.listed? {} = some s.batches := by
  obtain ⟨d, hplace, -⟩ := h
  rw [listed?_default, batches_of_place hplace, batches?, hplace]

theorem Orderly.evictions_default {s : Spool} (h : s.Orderly) (needed : Nat) :
    s.evictions needed = evicted {} s.maxBytes needed (totalSize s.batches) s.batches := by
  rw [evictions, h.listed?]

/-- Batches in strict order of their names are settled by which ones they are. -/
theorem eq_of_mem_iff {as bs : List StoredBatch} (ha : as.Pairwise fun a b => a.name < b.name)
    (hb : bs.Pairwise fun a b => a.name < b.name) (h : ∀ b, b ∈ as ↔ b ∈ bs) : as = bs := by
  -- a strict order is irreflexive, and antisymmetric because no two names are before each other
  have : Std.Irrefl fun a b : StoredBatch => a.name < b.name := ⟨fun a => List.lt_irrefl a.name⟩
  have : Std.Antisymm fun a b : StoredBatch => a.name < b.name :=
    ⟨fun a _ hab hba => absurd (List.lt_trans hab hba) (List.lt_irrefl a.name)⟩
  exact ha.eq_of_mem_iff hb h

/-- What has made room is no longer there, and the rest stays. -/
theorem mem_rest_iff {bs gone rest : List StoredBatch} (h : bs.Pairwise fun a b => a.name < b.name)
    (hsplit : bs = gone ++ rest) (b : StoredBatch) : b ∈ bs ∧ b ∉ gone ↔ b ∈ rest := by
  rw [hsplit] at h ⊢
  rw [List.mem_append]
  constructor
  · rintro ⟨hgone | hrest, hnot⟩
    · exact absurd hgone hnot
    · exact hrest
  · intro hrest
    refine ⟨Or.inr hrest, fun hgone => ?_⟩
    exact List.lt_irrefl _ ((List.pairwise_append.mp h).2.2 b hgone b hrest)

/-- Of batches in strict order, those behind the ones in front are those that have none of their names. -/
theorem name_not_mem_iff {bs gone rest : List StoredBatch}
    (h : bs.Pairwise fun a b => a.name < b.name) (hsplit : bs = gone ++ rest) (b : StoredBatch) :
    b ∈ bs ∧ b.name ∉ gone.map StoredBatch.name ↔ b ∈ rest := by
  rw [← mem_rest_iff h hsplit b]
  refine and_congr_right fun hb => not_congr ⟨fun hname => ?_, List.mem_map_of_mem⟩
  obtain ⟨c, hc, hcb⟩ := List.mem_map.mp hname
  by_contra hnot
  have hrest : b ∈ rest := (mem_rest_iff h hsplit b).mp ⟨hb, hnot⟩
  rw [hsplit, List.pairwise_append] at h
  exact List.lt_irrefl _ (hcb ▸ h.2.2 c hc b hrest)

/-- A batch with a later name than all others is listed last. -/
theorem eq_append_of_lt {bs rest : List StoredBatch} {new : StoredBatch}
    (hbs : bs.Pairwise fun a b => a.name < b.name) (hrest : rest.Pairwise fun a b => a.name < b.name)
    (hlt : ∀ b ∈ rest, b.name < new.name) (hmem : ∀ b, b ∈ bs ↔ b ∈ rest ∨ b = new) :
    bs = rest ++ [new] := by
  refine eq_of_mem_iff hbs ?_ fun b => by simp [hmem]
  rw [List.pairwise_append]
  refine ⟨hrest, List.pairwise_singleton _ _, fun a ha b hb => ?_⟩
  rw [List.mem_singleton.mp hb]
  exact hlt a ha

/-- The batch that is stored last is listed last. -/
theorem batches_eq_append {s s' : Spool} (h : s.Tidy) (h' : s'.Tidy) {rest : List StoredBatch}
    (hrest : ∀ b ∈ rest, b ∈ s.batches) (hord : rest.Pairwise fun a b => a.name < b.name) {k : Nat}
    (hk : s.lastNanos < k) (hk20 : k < 10 ^ 20) {p : Bytes}
    (hmem : ∀ b, b ∈ s'.batches ↔ b ∈ rest ∨ b = ⟨batchName k, p⟩) :
    s'.batches = rest ++ [⟨batchName k, p⟩] := by
  refine eq_append_of_lt h'.pairwise_batches hord (fun a ha => ?_) hmem
  obtain ⟨j, hj, hname⟩ := h.exists_batchName (hrest a ha)
  rw [hname]
  exact batchName_lt_batchName (by omega) hk20

/-- What storing a batch does to any directory without failures. The shortest part in front that makes room has
gone, or all batches if none does; then the batch stands beside the others, or in the place of one with the same
name, or it is larger than the spool. -/
theorem Orderly.enqueue_default {s : Spool} (h : s.Orderly) (now : Nat) {p : Bytes} (hp : p ≠ []) :
    ∃ rest, s.batches = s.evictions p.length ++ rest ∧
      (∀ gone' rest', s.batches = gone' ++ rest' → totalSize rest' + p.length ≤ s.maxBytes →
        (s.evictions p.length).length ≤ gone'.length) ∧
      ((s.maxBytes < p.length ∧ (s.enqueue now p).1 = .error (.full p.length s.maxBytes) ∧
          (s.enqueue now p).2.lastNanos = s.lastNanos ∧ rest = [] ∧
          (s.enqueue now p).2.batches = []) ∨
        (totalSize rest + p.length ≤ s.maxBytes ∧ (s.enqueue now p).1 = .ok () ∧
          (s.enqueue now p).2.lastNanos = s.nextNanos now ∧
          ∀ b, b ∈ (s.enqueue now p).2.batches ↔
            b = ⟨batchName (s.nextNanos now), p⟩ ∨
              (b ∈ rest ∧ b.name ≠ batchName (s.nextNanos now)))) := by
  obtain ⟨d, hplace, hord⟩ := id h
  obtain ⟨rest, hsplit, hroom, hshort⟩ := evicted_split s.maxBytes p.length s.batches
  rw [← h.evictions_default] at hsplit hshort
  have hsize : totalSize s.batches - totalSize (s.evictions p.length) = totalSize rest := by
    conv_lhs => rw [hsplit]
    rw [totalSize_append, Nat.add_sub_cancel_left]
  -- the directory once room was made
  have hmem (b : StoredBatch) :
      b ∈ (d.applyAll (removal (s.evictions p.length))).batches ↔ b ∈ rest := by
    rw [mem_batches_removal_iff hord, ← batches_of_place hplace,
      name_not_mem_iff h.pairwise_batches hsplit]
  refine ⟨rest, hsplit, hshort, ?_⟩
  rcases enqueue_cases hplace now hp {} with ⟨hnone, -, -⟩ | ⟨bs, hlist, -, hcase⟩
  · rw [h.listed?] at hnone
    exact absurd hnone (by simp)
  · rw [h.listed?, Option.some.injEq] at hlist
    subst hlist
    dsimp only at hcase
    rw [hsize] at hcase
    rcases hcase with ⟨hfull, heq⟩ | ⟨hfit, heq⟩
    · -- no part in front makes enough room, so everything is gone
      have hnil : rest = [] := hroom.resolve_right (by omega)
      have hlarge : s.maxBytes < p.length := by
        rw [hnil, totalSize] at hfull
        omega
      refine Or.inl ⟨hlarge, by rw [heq], by rw [heq], hnil, ?_⟩
      rw [heq, batches_of_place rfl, List.eq_nil_iff_forall_not_mem]
      intro b hb
      rw [hmem, hnil] at hb
      exact List.not_mem_nil hb
    · refine Or.inr ⟨hfit, by rw [heq]; rfl, by rw [heq], fun b => ?_⟩
      rw [heq, batches_of_place rfl, mem_batches_written_iff (hord.applyAll _) rfl, hmem]

/-- What storing a batch does without failures. The shortest part in front that makes room has gone, or all
batches if none does; then the batch is stored under a new name, or it is larger than the spool. -/
theorem enqueue_default {s : Spool} (h : s.Tidy) (now : Nat) {p : Bytes} (hp : p ≠ []) :
    ∃ gone rest, s.batches = gone ++ rest ∧
      (∀ gone' rest', s.batches = gone' ++ rest' → totalSize rest' + p.length ≤ s.maxBytes →
        gone.length ≤ gone'.length) ∧
      ((s.maxBytes < p.length ∧ (s.enqueue now p).1 = .error (.full p.length s.maxBytes) ∧
          (s.enqueue now p).2.lastNanos = s.lastNanos ∧
          ∀ b, b ∉ (s.enqueue now p).2.batches) ∨
        (totalSize rest + p.length ≤ s.maxBytes ∧ (s.enqueue now p).1 = .ok () ∧
          (s.enqueue now p).2.lastNanos = s.nextNanos now ∧
          ∀ b, b ∈ (s.enqueue now p).2.batches ↔
            b ∈ rest ∨ b = ⟨batchName (s.nextNanos now), p⟩)) := by
  obtain ⟨rest, hsplit, hshort, hcase⟩ := h.orderly.enqueue_default now hp
  refine ⟨s.evictions p.length, rest, hsplit, hshort, ?_⟩
  rcases hcase with ⟨hlarge, hfull, hnanos, -, hnone⟩ | ⟨hfit, hok, hnanos, hmem⟩
  · exact Or.inl ⟨hlarge, hfull, hnanos, List.eq_nil_iff_forall_not_mem.mp hnone⟩
  · refine Or.inr ⟨hfit, hok, hnanos, fun b => ?_⟩
    rw [hmem, or_comm]
    refine or_congr_left ⟨And.left, fun hb => ⟨hb, ?_⟩⟩
    -- the name is later than all that were given, so no batch that stays has it
    have hold : b ∈ s.batches := by
      rw [hsplit]
      exact List.mem_append_right _ hb
    exact (h.knows hold).name_ne now

/-- Storing a batch is a step of the queue. -/
theorem Refines.enqueue {s : Spool} {q : Queue} (h : s.Refines q) (now : Nat) (p : Bytes)
    (hlast : (s.enqueue now p).2.lastNanos < 10 ^ 20) :
    ∃ q', Queue.Step s.maxBytes q (.enqueue now p) (.done (s.enqueue now p).1) q' ∧
      (s.enqueue now p).2.Refines q' := by
  by_cases hp : p = []
  · subst hp
    exact ⟨q, .enqueue_empty q now, h⟩
  have hsorted := h.tidy.pairwise_batches
  have hlater := lastNanos_lt_nextNanos s now
  have htidy := (batches_enqueue h.tidy now hp {}).1
  obtain ⟨gone, rest, hsplit, hshort, hcase⟩ := enqueue_default h.tidy now hp
  rcases hcase with ⟨hlarge, hfull, hnanos, hmem⟩ | ⟨hfit, hwritten, hnanos, hmem⟩
  · refine ⟨{ q with items := [] }, ?_, htidy, ?_, Nat.zero_le _, fun n hn => ?_⟩
    · rw [hfull]
      exact .enqueue_full q now p hlarge
    · exact List.eq_nil_iff_forall_not_mem.mpr hmem
    · rw [Gave, hnanos]
      exact h.used n hn
  · have hsub : rest.Sublist s.batches := by
      rw [hsplit]
      exact List.sublist_append_right gone rest
    have hbatches : (s.enqueue now p).2.batches
        = rest ++ [⟨batchName (s.nextNanos now), p⟩] :=
      batches_eq_append h.tidy htidy (fun b hb => hsub.subset hb) (hsorted.sublist hsub) hlater
        (hnanos ▸ hlast) hmem
    refine ⟨⟨rest ++ [⟨batchName (s.nextNanos now), p⟩], batchName (s.nextNanos now) :: q.used⟩,
      ?_, htidy, hbatches, ?_, fun n hn => ?_⟩
    · -- the name is later than all that were given, so the queue has not used it
      have hfresh : batchName (s.nextNanos now) ∉ q.used :=
        fun hused => (h.used _ hused).ne_batchName hlater rfl
      rw [hwritten]
      exact .enqueue_fits q now p _ gone rest (List.length_pos_iff.mpr hp) (by omega)
        (h.items ▸ hsplit) hfit (h.items ▸ hshort) hfresh
    · rw [totalSize_append, totalSize_cons, maxBytes_enqueue]
      exact hfit
    · rw [Gave, hnanos]
      rcases List.mem_cons.mp hn with rfl | hused
      · exact ⟨_, Nat.le_refl _, Or.inl rfl⟩
      · obtain ⟨k, hk, hname⟩ := h.used n hused
        exact ⟨k, by omega, hname⟩

/-- Without failures removing a batch succeeds. -/
theorem ack_default {s : Spool} (h : s.Tidy) (name : Name) : (s.ack name).1 = .ok () := by
  obtain ⟨d, hplace, -, hgave⟩ := h
  rcases ack_cases hplace (fun e he => (hgave name e he).2) {} with ⟨-, heq⟩ | ⟨-, heq⟩ | ⟨hr, -⟩
  · rw [heq]
  · rw [heq]
  · exact absurd hr (by simp)

/-- The batches that are left when one was removed from between others. -/
theorem mem_append_iff_of_split {bs front back : List StoredBatch} {b : StoredBatch}
    (h : bs.Pairwise fun a b => a.name < b.name) (hsplit : bs = front ++ b :: back)
    (c : StoredBatch) : c ∈ bs ∧ c.name ≠ b.name ↔ c ∈ front ++ back := by
  rw [hsplit, List.pairwise_append, List.pairwise_cons] at h
  obtain ⟨-, ⟨hback, -⟩, hfront⟩ := h
  have hne : c ∈ front ++ back → c.name ≠ b.name := by
    rw [List.mem_append]
    rintro (hc | hc) heq
    · exact List.lt_irrefl _ (heq ▸ hfront c hc b (List.mem_cons_self ..))
    · exact List.lt_irrefl _ (heq ▸ hback c hc)
  rw [hsplit]
  constructor
  · rintro ⟨hc, hname⟩
    rw [List.mem_append, List.mem_cons] at hc
    rcases hc with hc | rfl | hc
    · exact List.mem_append_left _ hc
    · exact absurd rfl hname
    · exact List.mem_append_right _ hc
  · intro hc
    refine ⟨?_, hne hc⟩
    rcases List.mem_append.mp hc with hc | hc
    · exact List.mem_append_left _ hc
    · exact List.mem_append_right _ (List.mem_cons_of_mem _ hc)

/-- Removing a batch is a step of the queue. -/
theorem Refines.ack {s : Spool} {q : Queue} (h : s.Refines q) (name : Name) :
    ∃ q', Queue.Step s.maxBytes q (.ack name) (.done (s.ack name).1) q' ∧
      (s.ack name).2.Refines q' := by
  have hsorted := h.tidy.pairwise_batches
  have hok := ack_default h.tidy name
  obtain ⟨htidy, hcontents⟩ := batches_ack h.tidy name {}
  have hmem : ∀ c, c ∈ (s.ack name).2.batches ↔ c ∈ s.batches ∧ c.name ≠ name := by
    rcases hcontents with ⟨-, hmem⟩ | ⟨⟨e, he⟩, -⟩
    · exact hmem
    · rw [hok] at he
      exact absurd he (by simp)
  have hused : ∀ n ∈ q.used, (s.ack name).2.Gave n := by
    intro n hn
    rw [Gave, lastNanos_ack]
    exact h.used n hn
  rw [hok]
  by_cases hthere : ∃ b ∈ q.items, b.name = name
  · obtain ⟨b, hb, rfl⟩ := hthere
    obtain ⟨front, back, hsplit⟩ := List.append_of_mem hb
    have hsub : (front ++ back).Sublist s.batches := by
      rw [h.items, hsplit]
      exact (List.Sublist.refl front).append (List.sublist_cons_self b back)
    refine ⟨{ q with items := front ++ back }, .ack q b front back hsplit, htidy, ?_, ?_, hused⟩
    · refine eq_of_mem_iff htidy.pairwise_batches (hsorted.sublist hsub) fun c => ?_
      rw [hmem, mem_append_iff_of_split hsorted (h.items.trans hsplit)]
    · have hbound := h.bound
      rw [hsplit, totalSize_append, totalSize_cons] at hbound
      rw [totalSize_append, maxBytes_ack]
      omega
  · have hgone : ∀ b ∈ q.items, b.name ≠ name := fun b hb hname => hthere ⟨b, hb, hname⟩
    refine ⟨q, .ack_gone q name hgone, htidy, ?_, ?_, hused⟩
    · rw [← h.items]
      refine eq_of_mem_iff htidy.pairwise_batches hsorted fun c => ?_
      rw [hmem]
      exact ⟨And.left, fun hc => ⟨hc, hgone c (h.items ▸ hc)⟩⟩
    · rw [maxBytes_ack]
      exact h.bound

/-- Looking for the oldest batch is a step of the queue. -/
theorem Refines.dequeueOldest {s : Spool} {q : Queue} (h : s.Refines q) :
    Queue.Step s.maxBytes q .dequeueOldest (.found s.dequeueOldest) q := by
  rw [Spool.dequeueOldest, h.tidy.orderly.listed?, h.items]
  cases hq : q.items with
  | nil => exact .dequeue_empty q hq
  | cons b rest => exact .dequeue q b rest hq

/-- Each call is a step of the queue. -/
theorem Refines.call {s : Spool} {q : Queue} (h : s.Refines q) (c : Call)
    (hlast : (s.call c).2.lastNanos < 10 ^ 20) :
    ∃ q', Queue.Step s.maxBytes q c (s.call c).1 q' ∧ (s.call c).2.Refines q' := by
  cases c with
  | enqueue now p => exact h.enqueue now p hlast
  | dequeueOldest => exact ⟨q, h.dequeueOldest, h⟩
  | ack name => exact h.ack name
  | sizeBytes =>
    refine ⟨q, ?_, h⟩
    rw [Spool.call, sizeBytes, h.items]
    exact .sizeBytes q h.bound
  | count =>
    refine ⟨q, ?_, h⟩
    rw [Spool.call, count, h.items]
    exact .count q

/-! ## Runs -/

theorem lastNanos_le_call (s : Spool) (c : Call) : s.lastNanos ≤ (s.call c).2.lastNanos := by
  cases c with
  | enqueue now p => exact lastNanos_le_enqueue s now p {}
  | ack name => exact Nat.le_of_eq (lastNanos_ack s name {}).symm
  | dequeueOldest => exact Nat.le_refl _
  | sizeBytes => exact Nat.le_refl _
  | count => exact Nat.le_refl _

theorem lastNanos_le_calls (s : Spool) (cs : List Call) : s.lastNanos ≤ (s.calls cs).lastNanos := by
  induction cs generalizing s with
  | nil => exact Nat.le_refl _
  | cons c cs ih => exact Nat.le_trans (lastNanos_le_call s c) (ih _)

theorem maxBytes_call (s : Spool) (c : Call) : (s.call c).2.maxBytes = s.maxBytes := by
  cases c with
  | enqueue now p => exact maxBytes_enqueue s now p {}
  | ack name => exact maxBytes_ack s name {}
  | dequeueOldest => rfl
  | sizeBytes => rfl
  | count => rfl

theorem maxBytes_calls (s : Spool) (cs : List Call) : (s.calls cs).maxBytes = s.maxBytes := by
  induction cs generalizing s with
  | nil => rfl
  | cons c cs ih => exact (ih (s.call c).2).trans (maxBytes_call s c)

/-- Calls one after the other are a run of the queue. -/
theorem Refines.calls {s : Spool} {q : Queue} (h : s.Refines q) (cs : List Call)
    (hlast : (s.calls cs).lastNanos < 10 ^ 20) :
    ∃ q', Queue.Run s.maxBytes q cs (s.answers cs) q' ∧ (s.calls cs).Refines q' := by
  induction cs generalizing s q with
  | nil => exact ⟨q, .nil q, h⟩
  | cons c cs ih =>
    -- names only become later, so the bound at the end is one for every call
    have hlast' : (s.call c).2.lastNanos < 10 ^ 20 :=
      Nat.lt_of_le_of_lt (lastNanos_le_calls _ cs) hlast
    obtain ⟨q', hstep, hq'⟩ := h.call c hlast'
    obtain ⟨q'', hrun, hq''⟩ := ih hq' hlast
    rw [maxBytes_call] at hrun
    exact ⟨q'', .cons hstep hrun, hq''⟩

/-- **The spool is a bounded queue.** From an empty directory on, any calls at any times answer what a queue
of at most `maxBytes` bytes answers, and leave behind what it leaves behind, as long as twenty digits are
enough for the names. -/
theorem refines_queue (maxBytes : Nat) (cs : List Call)
    (hlast : (calls { place := .directory {}, maxBytes } cs).lastNanos < 10 ^ 20) :
    ∃ q, Queue.Run maxBytes {} cs (answers { place := .directory {}, maxBytes } cs) q ∧
      (calls { place := .directory {}, maxBytes } cs).batches = q.items ∧
      totalSize q.items ≤ maxBytes := by
  have start : Refines { place := .directory {}, maxBytes } {} :=
    ⟨tidy_empty _ rfl, rfl, Nat.zero_le _, fun n hn => absurd hn List.not_mem_nil⟩
  obtain ⟨q, hrun, hq⟩ := start.calls cs hlast
  have hmax : (calls { place := .directory {}, maxBytes } cs).maxBytes = maxBytes :=
    maxBytes_calls _ cs
  exact ⟨q, hrun, hq.items, hmax ▸ hq.bound⟩

/-- The clock goes back, the oldest batch makes room for the third, and the second is removed twice. -/
theorem refines_queue_backward_clock :
    (calls { place := .directory {}, maxBytes := 4 }
      [.enqueue 9 [1, 1], .enqueue 3 [2, 2], .enqueue 5 [3], .dequeueOldest,
        .ack (batchName 10), .ack (batchName 10), .sizeBytes]).lastNanos < 10 ^ 20 ∧
    ∃ q, Queue.Run 4 {}
        [.enqueue 9 [1, 1], .enqueue 3 [2, 2], .enqueue 5 [3], .dequeueOldest,
          .ack (batchName 10), .ack (batchName 10), .sizeBytes]
        (answers { place := .directory {}, maxBytes := 4 }
          [.enqueue 9 [1, 1], .enqueue 3 [2, 2], .enqueue 5 [3], .dequeueOldest,
            .ack (batchName 10), .ack (batchName 10), .sizeBytes]) q ∧
      (calls { place := .directory {}, maxBytes := 4 }
        [.enqueue 9 [1, 1], .enqueue 3 [2, 2], .enqueue 5 [3], .dequeueOldest,
          .ack (batchName 10), .ack (batchName 10), .sizeBytes]).batches = q.items ∧
      totalSize q.items ≤ 4 :=
  ⟨by decide +kernel, refines_queue 4 _ (by decide +kernel)⟩

end RouterTelemetry.Spool
