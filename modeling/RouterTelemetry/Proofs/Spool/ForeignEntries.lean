import RouterTelemetry.Proofs.Spool.Queue
/-!
# Foreign entries of the spool's directory

Other files and directories may stand beside the batches. They make no difference to what the calls of the spool
answer, and the calls leave them as they are. Main statements, each for any failures of the file system:

* `Beside.call` : a call answers the same for the same batches, whatever stands beside them;
* `Beside.foreign?_callOn` : a call leaves a foreign entry as it is;
* `totalSize_enqueue_le` : the batches fit after one was stored, even if they did not before;
* `foreign_entries_apart` : what a run says about foreign entries.
-/

namespace RouterTelemetry.Spool

open Text (Bytes)

/-! ## Calls that may fail -/

/-- What a call answers, and the spool after it, when the file system makes this of it. -/
def callOn (s : Spool) (disk : Disk) : Call → Answer × Spool
  | .enqueue now payload => (.done (s.enqueue now payload disk).1, (s.enqueue now payload disk).2)
  | .dequeueOldest => (.found (s.dequeueOldest disk), s)
  | .ack name => (.done (s.ack name disk).1, (s.ack name disk).2)
  | .sizeBytes => (.number (totalSize ((s.listed? disk).getD [])), s)
  | .count => (.number ((s.listed? disk).getD []).length, s)

/-- When nothing fails it is an ordinary call. -/
theorem callOn_default (s : Spool) (c : Call) : s.callOn {} c = s.call c := by
  cases c with
  | sizeBytes => rw [callOn, listed?_default]; rfl
  | count => rw [callOn, listed?_default]; rfl
  | _ => rfl

/-- What calls answer one after the other. -/
def answersOn (s : Spool) : List (Disk × Call) → List Answer
  | [] => []
  | (disk, c) :: cs => (s.callOn disk c).1 :: answersOn (s.callOn disk c).2 cs

/-- The spool after some calls. -/
def callsOn (s : Spool) (cs : List (Disk × Call)) : Spool :=
  cs.foldl (fun s x => (s.callOn x.1 x.2).2) s

/-! ## Foreign entries -/

/-- What stands under a name, unless it is a batch. -/
def foreign? (s : Spool) (n : Name) : Option Entry :=
  match s.place with
  | .directory d => (d.get? n).filter fun e => (batchOf? (n, e)).isNone
  | _ => none

/-- The spool on a directory with nothing but the batches. -/
def onlyBatches (s : Spool) : Spool :=
  match s.place with
  | .directory d => { s with place := .directory ⟨d.entries.filter fun x => (batchOf? x).isSome⟩ }
  | _ => s

/-- The name of the batch that a call finds. -/
def finds (s : Spool) (disk : Disk) : Call → List Name
  | .dequeueOldest =>
    match s.dequeueOldest disk with
    | .ok b => [b.name]
    | .error _ => []
  | _ => []

/-- Whether a call removes only what was found, and gives no name that a foreign entry has, to a batch or to its
temporary file. -/
def Keeps (found : List Name) (s : Spool) (disk : Disk) : Call → Prop
  | .enqueue now payload => (s.enqueue now payload disk).2.lastNanos ≠ s.lastNanos →
      s.foreign? (batchName (s.nextNanos now)) = none ∧
        s.foreign? (batchName (s.nextNanos now) ++ temporarySuffix) = none
  | .ack name => name ∈ found
  | _ => True

/-- Whether all calls do. -/
def AllKeep (found : List Name) (s : Spool) : List (Disk × Call) → Prop
  | [] => True
  | (disk, c) :: cs => s.Keeps found disk c ∧ AllKeep (found ++ s.finds disk c) (s.callOn disk c).2 cs

instance (found : List Name) (s : Spool) (disk : Disk) (c : Call) : Decidable (s.Keeps found disk c) :=
  match c with
  | .enqueue _ _ => inferInstanceAs (Decidable (_ → _))
  | .ack _ => inferInstanceAs (Decidable (_ ∈ _))
  | .dequeueOldest => .isTrue trivial
  | .sizeBytes => .isTrue trivial
  | .count => .isTrue trivial

instance decidableAllKeep (found : List Name) (s : Spool) (cs : List (Disk × Call)) :
    Decidable (s.AllKeep found cs) :=
  match cs with
  | [] => .isTrue trivial
  | (disk, c) :: cs =>
    have := decidableAllKeep (found ++ s.finds disk c) (s.callOn disk c).2 cs
    inferInstanceAs (Decidable (_ ∧ _))

/-! ## The same batches -/

/-- Two spools that hold the same batches, whatever else stands in their directories. -/
structure Alike (s t : Spool) : Prop where
  orderly : s.Orderly
  orderly' : t.Orderly
  batches : s.batches = t.batches
  maxBytes : s.maxBytes = t.maxBytes
  lastNanos : s.lastNanos = t.lastNanos

theorem Orderly.batches? {s : Spool} (h : s.Orderly) : s.batches? = some s.batches := by
  obtain ⟨d, hplace, -⟩ := h
  rw [batches_of_place hplace, Spool.batches?, hplace]

namespace Alike

variable {s t : Spool}

theorem listed? (h : s.Alike t) (disk : Disk) : s.listed? disk = t.listed? disk := by
  rw [Spool.listed?, Spool.listed?, h.orderly.batches?, h.orderly'.batches?, h.batches]

theorem evictions (h : s.Alike t) (needed : Nat) (disk : Disk) :
    s.evictions needed disk = t.evictions needed disk := by
  rw [Spool.evictions, Spool.evictions, h.listed?, h.maxBytes]

theorem nextNanos (h : s.Alike t) (now : Nat) : s.nextNanos now = t.nextNanos now := by
  rw [Spool.nextNanos, Spool.nextNanos, h.lastNanos]

/-- The same batches make room in both. -/
theorem mem_room_iff {d d' : Directory} (hd : d.Ordered) (hd' : d'.Ordered) (h : d.batches = d'.batches)
    (gone : List StoredBatch) (b : StoredBatch) :
    b ∈ (d.applyAll (removal gone)).batches ↔ b ∈ (d'.applyAll (removal gone)).batches := by
  rw [mem_batches_removal_iff hd, mem_batches_removal_iff hd', h]

/-- A batch that is written, or fails to be, makes the same difference in both. -/
theorem mem_written_iff {d d' : Directory} (hd : d.Ordered) (hd' : d'.Ordered)
    (h : ∀ b, b ∈ d.batches ↔ b ∈ d'.batches) (disk : Disk) (k : Nat) (payload : Bytes) (b : StoredBatch) :
    b ∈ (d.applyAll (written disk (batchName k) payload).2).batches ↔
      b ∈ (d'.applyAll (written disk (batchName k) payload).2).batches := by
  cases hw : disk.fails with
  | none => rw [mem_batches_written_iff hd hw, mem_batches_written_iff hd' hw, h]
  | some i => rw [mem_batches_written_of_fails hd hw, mem_batches_written_of_fails hd' hw, h]

/-- Spools that hold the same batches answer the same when one more is to be stored, and hold the same then. -/
theorem enqueue (h : s.Alike t) (now : Nat) (payload : Bytes) (disk : Disk) :
    (s.enqueue now payload disk).1 = (t.enqueue now payload disk).1 ∧
      (s.enqueue now payload disk).2.Alike (t.enqueue now payload disk).2 := by
  by_cases hp : payload = []
  · subst hp
    exact ⟨rfl, h⟩
  obtain ⟨d, hs, hd⟩ := id h.orderly
  obtain ⟨d', ht, hd'⟩ := id h.orderly'
  have hbatches : d.batches = d'.batches := by rw [← batches_of_place hs, h.batches, batches_of_place ht]
  have horderly := h.orderly.enqueue now payload disk
  have horderly' := h.orderly'.enqueue now payload disk
  have hmax : (s.enqueue now payload disk).2.maxBytes = (t.enqueue now payload disk).2.maxBytes := by
    rw [maxBytes_enqueue, maxBytes_enqueue, h.maxBytes]
  -- it is enough that both give the same name and hold the same batches
  have hsame (hlast : (s.enqueue now payload disk).2.lastNanos = (t.enqueue now payload disk).2.lastNanos)
      (hmem : ∀ b, b ∈ (s.enqueue now payload disk).2.batches ↔ b ∈ (t.enqueue now payload disk).2.batches) :
      (s.enqueue now payload disk).2.Alike (t.enqueue now payload disk).2 :=
    ⟨horderly, horderly', eq_of_mem_iff horderly.pairwise_batches horderly'.pairwise_batches hmem, hmax, hlast⟩
  have hroom := mem_room_iff hd hd' hbatches (t.evictions payload.length disk)
  rcases enqueue_cases hs now hp disk with ⟨hl, -, heq⟩ | ⟨bs, hl, -, hcase⟩
  · rcases enqueue_cases ht now hp disk with ⟨-, -, heq'⟩ | ⟨bs', hl', -, -⟩
    · refine ⟨by rw [heq, heq'], hsame (by rw [heq, heq', h.lastNanos]) fun b => ?_⟩
      rw [heq, heq', h.batches]
    · rw [← h.listed?, hl] at hl'
      exact absurd hl' (by simp)
  · rcases enqueue_cases ht now hp disk with ⟨hl', -, -⟩ | ⟨bs', hl', -, hcase'⟩
    · rw [← h.listed?, hl] at hl'
      exact absurd hl' (by simp)
    · obtain rfl : bs = bs' := Option.some.inj (hl.symm.trans ((h.listed? disk).trans hl'))
      dsimp only at hcase hcase'
      rw [h.evictions, h.maxBytes, h.nextNanos] at hcase
      rcases hcase with ⟨hfull, heq⟩ | ⟨hfit, heq⟩
      · obtain heq' := (hcase'.resolve_right fun hfit => absurd hfit.1 (by omega)).2
        refine ⟨by rw [heq, heq'], hsame (by rw [heq, heq']; exact h.lastNanos) fun b => ?_⟩
        rw [heq, heq', batches_of_place rfl, batches_of_place rfl]
        exact hroom b
      · obtain heq' := (hcase'.resolve_left fun hfull => absurd hfull.1 (by omega)).2
        refine ⟨by rw [heq, heq'], hsame (by rw [heq, heq']) fun b => ?_⟩
        rw [heq, heq', batches_of_place rfl, batches_of_place rfl]
        exact mem_written_iff (hd.applyAll _) (hd'.applyAll _) hroom disk _ payload b

end Alike

/-! ## Names of batches that were found -/

/-- A name of a batch under which no directory stands. -/
def Removable (s : Spool) (n : Name) : Prop :=
  isBatchName n = true ∧ s.foreign? n = none

theorem foreign?_of_place {s : Spool} {d : Directory} (hplace : s.place = .directory d) (n : Name) :
    s.foreign? n = (d.get? n).filter fun e => (batchOf? (n, e)).isNone := by
  rw [foreign?, hplace]

/-- Under such a name stands a batch, or nothing. -/
theorem removable_iff {s : Spool} {d : Directory} (hplace : s.place = .directory d) {n : Name}
    (hn : isBatchName n = true) : s.Removable n ↔ d.get? n ≠ some .directory := by
  rw [Removable, foreign?_of_place hplace]
  rcases d.get? n with _ | (content | _)
  · simp [hn]
  · simp [hn, batchOf?]
  · simp [batchOf?]

/-- The name of a batch that is stored. -/
theorem removable_of_mem {s : Spool} (h : s.Orderly) {b : StoredBatch} (hb : b ∈ s.batches) :
    s.Removable b.name := by
  obtain ⟨d, hplace, hord⟩ := h
  obtain ⟨hget, hname⟩ := (mem_batches_of_place hplace hord).mp hb
  rw [removable_iff hplace hname, hget]
  simp

/-- Where no directory stands, none is made. -/
theorem Removable.enqueue {s : Spool} (h : s.Orderly) {n : Name} (hn : s.Removable n) (now : Nat) (payload : Bytes)
    (disk : Disk) : (s.enqueue now payload disk).2.Removable n := by
  by_cases hp : payload = []
  · subst hp
    exact hn
  obtain ⟨d, hplace, -⟩ := h
  have hname := hn.1
  have hd : d.get? n ≠ some .directory := (removable_iff hplace hname).mp hn
  have hroom : (d.applyAll (removal (s.evictions payload.length disk))).get? n ≠ some .directory := by
    rw [get?_removal]
    split
    · simp
    · exact hd
  rcases enqueue_cases hplace now hp disk with ⟨-, -, heq⟩ | ⟨bs, -, -, ⟨-, heq⟩ | ⟨-, heq⟩⟩
  · rwa [heq]
  · rw [heq, removable_iff rfl hname]
    exact hroom
  · rw [heq, removable_iff rfl hname]
    -- a temporary file has no name of a batch
    have htmp : n ≠ batchName (s.nextNanos now) ++ temporarySuffix := by
      rintro rfl
      rw [isBatchName_temporary] at hname
      exact Bool.noConfusion hname
    cases hw : disk.fails with
    | none =>
      rw [get?_written hw, if_neg htmp]
      split
      · simp
      · exact hroom
    | some i =>
      rw [get?_applyAll_of_on htmp (on_of_mem_written hw _ payload)]
      exact hroom

theorem Removable.ack {s : Spool} {n : Name} (hn : s.Removable n) (name : Name) (disk : Disk) :
    (s.ack name disk).2.Removable n := by
  rcases s.ack_snd_cases name disk with heq | ⟨d, hplace, heq⟩
  · rwa [heq]
  · rw [heq, removable_iff rfl hn.1, Directory.get?_erase]
    split
    · simp
    · exact (removable_iff hplace hn.1).mp hn

/-- What becomes of a spool when a name is removed under which a batch stands or nothing. -/
theorem Removable.ack_cases {s : Spool} {d : Directory} (hplace : s.place = .directory d) (hord : d.Ordered)
    {name : Name} (hn : s.Removable name) (disk : Disk) :
    ((∀ b ∈ s.batches, b.name ≠ name) ∧ s.ack name disk = (.ok (), s)) ∨
      ((∃ b ∈ s.batches, b.name = name) ∧
        if disk.removes name then s.ack name disk = (.ok (), { s with place := .directory (d.erase name) })
        else s.ack name disk = (.error .storage, s)) := by
  have hd := (removable_iff hplace hn.1).mp hn
  have hmem (b : StoredBatch) := mem_batches_of_place hplace hord (b := b)
  cases hget : d.get? name with
  | none =>
    refine Or.inl ⟨?_, by simp [Spool.ack, hplace, hget]⟩
    rintro b hb rfl
    exact absurd (hget.symm.trans ((hmem b).mp hb).1) (by simp)
  | some e =>
    cases e with
    | directory => exact absurd hget hd
    | file content =>
      refine Or.inr ⟨⟨⟨name, content⟩, (hmem _).mpr ⟨hget, hn.1⟩, rfl⟩, ?_⟩
      cases hr : disk.removes name with
      | true => simp [Spool.ack, hplace, hget, hr, Directory.apply]
      | false => simp [Spool.ack, hplace, hget, hr]

/-- Spools that hold the same batches answer the same when one is to be removed, and hold the same then. -/
theorem Alike.ack {s t : Spool} (h : s.Alike t) {name : Name} (hs : s.Removable name) (ht : t.Removable name)
    (disk : Disk) : (s.ack name disk).1 = (t.ack name disk).1 ∧ (s.ack name disk).2.Alike (t.ack name disk).2 := by
  obtain ⟨d, hplace, hd⟩ := id h.orderly
  obtain ⟨d', hplace', hd'⟩ := id h.orderly'
  rcases hs.ack_cases hplace hd disk with ⟨hnone, heq⟩ | ⟨⟨b, hb, hname⟩, hcase⟩
  · rcases ht.ack_cases hplace' hd' disk with ⟨-, heq'⟩ | ⟨⟨b, hb, hname⟩, -⟩
    · rw [heq, heq']
      exact ⟨rfl, h⟩
    · exact absurd hname (hnone b (h.batches ▸ hb))
  · rcases ht.ack_cases hplace' hd' disk with ⟨hnone, -⟩ | ⟨-, hcase'⟩
    · exact absurd hname (hnone b (h.batches ▸ hb))
    · cases hr : disk.removes name with
      | false =>
        rw [if_neg (by simp [hr])] at hcase hcase'
        rw [hcase, hcase']
        exact ⟨rfl, h⟩
      | true =>
        rw [if_pos hr] at hcase hcase'
        rw [hcase, hcase']
        have hbatches : (d.erase name).batches = (d'.erase name).batches := by
          refine eq_of_mem_iff (hd.erase _).pairwise_batches (hd'.erase _).pairwise_batches fun c => ?_
          have hmem : c ∈ d.batches ↔ c ∈ d'.batches := by
            rw [← batches_of_place hplace, h.batches, batches_of_place hplace']
          rw [hd.mem_batches, hd'.mem_batches] at hmem
          rw [(hd.erase _).mem_batches, (hd'.erase _).mem_batches, Directory.get?_erase, Directory.get?_erase]
          by_cases hc : c.name = name
          · simp [hc]
          · rw [if_neg hc, if_neg hc, hmem]
        exact ⟨rfl, ⟨⟨_, rfl, hd.erase name⟩, ⟨_, rfl, hd'.erase name⟩, hbatches, h.maxBytes, h.lastNanos⟩⟩

theorem Orderly.callOn {s : Spool} (h : s.Orderly) (disk : Disk) (c : Call) : (s.callOn disk c).2.Orderly := by
  cases c with
  | enqueue now payload => exact h.enqueue now payload disk
  | ack name => exact h.ack name disk
  | _ => exact h

theorem Removable.callOn {s : Spool} (h : s.Orderly) {n : Name} (hn : s.Removable n) (disk : Disk) (c : Call) :
    (s.callOn disk c).2.Removable n := by
  cases c with
  | enqueue now payload => exact hn.enqueue h now payload disk
  | ack name => exact hn.ack name disk
  | _ => exact hn

/-- What a call finds is stored, and is so after it. -/
theorem removable_of_finds {s : Spool} (h : s.Orderly) {disk : Disk} {c : Call} {n : Name} (hn : n ∈ s.finds disk c) :
    (s.callOn disk c).2.Removable n := by
  cases c with
  | dequeueOldest =>
    unfold finds at hn
    cases hb : s.dequeueOldest disk with
    | error e =>
      rw [hb] at hn
      exact absurd hn List.not_mem_nil
    | ok b =>
      rw [hb] at hn
      obtain rfl := List.mem_singleton.mp hn
      exact removable_of_mem h (mem_of_dequeueOldest hb)
  | _ => exact absurd hn List.not_mem_nil

/-! ## Foreign entries stay -/

/-- A foreign entry is not a batch. -/
theorem ne_of_foreign? {s : Spool} {n : Name} {e : Entry} (h : s.foreign? n = some e) {name : Name}
    (hn : s.foreign? name = none) : n ≠ name := by
  rintro rfl
  exact absurd (h.symm.trans hn) (by simp)

/-- **A foreign entry stays as it is** when a batch is stored under a name that it does not have. -/
theorem foreign?_enqueue {s : Spool} (hs : s.Orderly) {n : Name} {e : Entry} (h : s.foreign? n = some e) {now : Nat}
    {payload : Bytes} {disk : Disk} (hkeeps : s.Keeps [] disk (.enqueue now payload)) :
    (s.enqueue now payload disk).2.foreign? n = some e := by
  by_cases hp : payload = []
  · subst hp
    exact h
  obtain ⟨d, hplace, hord⟩ := id hs
  have hget : d.get? n = some e ∧ batchOf? (n, e) = none := by
    rw [foreign?_of_place hplace, Option.filter_eq_some_iff] at h
    simpa using h
  -- what makes room has other names
  have hgone : n ∉ (s.evictions payload.length disk).map StoredBatch.name := by
    intro hn
    obtain ⟨b, hb, rfl⟩ := List.mem_map.mp hn
    exact ne_of_foreign? h (removable_of_mem hs (mem_of_mem_evictions hb)).2 rfl
  have hroom : (d.applyAll (removal (s.evictions payload.length disk))).get? n = some e := by
    rw [get?_removal, if_neg hgone, hget.1]
  have hstays {d' : Directory} (hd' : d'.get? n = some e) : (d'.get? n).filter
      (fun e => (batchOf? (n, e)).isNone) = some e := by
    rw [hd', Option.filter_eq_some_iff]
    simpa using hget.2
  rcases enqueue_cases hplace now hp disk with ⟨-, -, heq⟩ | ⟨bs, -, -, ⟨-, heq⟩ | ⟨-, heq⟩⟩
  · rwa [heq]
  · rw [heq, foreign?_of_place rfl]
    exact hstays hroom
  · have hlater := lastNanos_lt_nextNanos s now
    obtain ⟨hname, htmp⟩ := hkeeps (by rw [heq]; exact Nat.ne_of_gt hlater)
    rw [heq, foreign?_of_place rfl]
    refine hstays ?_
    cases hw : disk.fails with
    | none => rw [get?_written hw, if_neg (ne_of_foreign? h hname), if_neg (ne_of_foreign? h htmp), hroom]
    | some i => rw [get?_applyAll_of_on (ne_of_foreign? h htmp) (on_of_mem_written hw _ payload), hroom]

/-- A foreign entry stays when something else is removed. -/
theorem foreign?_ack {s : Spool} {n : Name} {e : Entry} (h : s.foreign? n = some e) {name : Name}
    (hn : s.Removable name) (disk : Disk) : (s.ack name disk).2.foreign? n = some e := by
  rcases s.ack_snd_cases name disk with heq | ⟨d, hplace, heq⟩
  · rwa [heq]
  · rw [heq, foreign?_of_place rfl, Directory.get?_erase, if_neg (ne_of_foreign? h hn.2)]
    rwa [foreign?_of_place hplace] at h

/-! ## Calls beside foreign entries -/

/-- Two spools that hold the same batches, and from which those that were found may be removed. -/
structure Beside (found : List Name) (s t : Spool) : Prop where
  alike : s.Alike t
  known : ∀ n ∈ found, s.Removable n ∧ t.Removable n

namespace Beside

variable {found : List Name} {s t : Spool} {disk : Disk} {c : Call}

theorem dequeueOldest (h : Beside found s t) (disk : Disk) : s.dequeueOldest disk = t.dequeueOldest disk := by
  rw [Spool.dequeueOldest, Spool.dequeueOldest, h.alike.listed?]

theorem finds (h : Beside found s t) (disk : Disk) (c : Call) : s.finds disk c = t.finds disk c := by
  cases c with
  | dequeueOldest => rw [Spool.finds, Spool.finds, h.dequeueOldest]
  | _ => rfl

/-- **A call answers the same for the same batches**, and leaves the same ones. -/
theorem call (h : Beside found s t) (hkeeps : s.Keeps found disk c) :
    (s.callOn disk c).1 = (t.callOn disk c).1 ∧
      Beside (found ++ s.finds disk c) (s.callOn disk c).2 (t.callOn disk c).2 := by
  have hsame : (s.callOn disk c).1 = (t.callOn disk c).1 ∧ (s.callOn disk c).2.Alike (t.callOn disk c).2 := by
    cases c with
    | enqueue now payload =>
      obtain ⟨hanswer, halike⟩ := h.alike.enqueue now payload disk
      exact ⟨congrArg Answer.done hanswer, halike⟩
    | ack name =>
      obtain ⟨hs, ht⟩ := h.known name hkeeps
      obtain ⟨hanswer, halike⟩ := h.alike.ack hs ht disk
      exact ⟨congrArg Answer.done hanswer, halike⟩
    | dequeueOldest => exact ⟨congrArg Answer.found (h.dequeueOldest disk), h.alike⟩
    | sizeBytes => exact ⟨by rw [callOn, callOn, h.alike.listed?], h.alike⟩
    | count => exact ⟨by rw [callOn, callOn, h.alike.listed?], h.alike⟩
  refine ⟨hsame.1, hsame.2, fun n hn => ?_⟩
  rcases List.mem_append.mp hn with hn | hn
  · obtain ⟨hs, ht⟩ := h.known n hn
    exact ⟨hs.callOn h.alike.orderly disk c, ht.callOn h.alike.orderly' disk c⟩
  · exact ⟨removable_of_finds h.alike.orderly hn, removable_of_finds h.alike.orderly' (h.finds disk c ▸ hn)⟩

/-- **A foreign entry stays as it is.** -/
theorem foreign?_callOn (h : Beside found s t) (hkeeps : s.Keeps found disk c) {n : Name} {e : Entry}
    (hn : s.foreign? n = some e) : (s.callOn disk c).2.foreign? n = some e := by
  cases c with
  | enqueue now payload => exact foreign?_enqueue h.alike.orderly hn hkeeps
  | ack name => exact foreign?_ack hn (h.known name hkeeps).1 disk
  | _ => exact hn

/-- Calls one after the other answer the same, leave the same batches, and leave foreign entries as they are. -/
theorem calls (h : Beside found s t) {cs : List (Disk × Call)} (hkeep : s.AllKeep found cs) :
    s.answersOn cs = t.answersOn cs ∧ (s.callsOn cs).Alike (t.callsOn cs) ∧
      ∀ n e, s.foreign? n = some e → (s.callsOn cs).foreign? n = some e := by
  induction cs generalizing found s t with
  | nil => exact ⟨rfl, h.alike, fun _ _ => id⟩
  | cons x cs ih =>
    obtain ⟨disk, c⟩ := x
    obtain ⟨hanswer, hnext⟩ := h.call hkeep.1
    obtain ⟨hanswers, halike, hforeign⟩ := ih hnext hkeep.2
    refine ⟨?_, halike, fun n e hn => hforeign n e (h.foreign?_callOn hkeep.1 hn)⟩
    rw [answersOn, answersOn, hanswer, hanswers]

end Beside

/-! ## The size of all batches -/

theorem totalSize_perm {as bs : List StoredBatch} (h : as.Perm bs) : totalSize as = totalSize bs := by
  induction h with
  | nil => rfl
  | cons b _ ih => rw [totalSize_cons, totalSize_cons, ih]
  | swap a b l => rw [totalSize_cons, totalSize_cons, totalSize_cons, totalSize_cons, Nat.add_left_comm]
  | trans _ _ ih ih' => rw [ih, ih']

theorem totalSize_sublist {as bs : List StoredBatch} (h : as.Sublist bs) : totalSize as ≤ totalSize bs := by
  induction h with
  | slnil => exact Nat.le_refl _
  | cons b _ ih => exact Nat.le_trans ih (Nat.le_add_left ..)
  | cons_cons b _ ih => exact Nat.add_le_add_left ih _

/-- Batches that are all among others, and of which there are no two alike, are no larger. -/
theorem totalSize_le_of_subset {as bs : List StoredBatch} (hnodup : as.Nodup) (h : as ⊆ bs) :
    totalSize as ≤ totalSize bs := by
  obtain ⟨cs, hperm, hsub⟩ := List.subperm_of_subset hnodup h
  rw [← totalSize_perm hperm]
  exact totalSize_sublist hsub

/-- No two batches are alike. -/
theorem Orderly.nodup_batches {s : Spool} (h : s.Orderly) : s.batches.Nodup := by
  refine h.pairwise_batches.imp fun {a b} hlt => ?_
  rintro rfl
  exact List.lt_irrefl _ hlt

/-- **The batches fit after one was stored**, even if they did not before, as long as all of them are seen. -/
theorem totalSize_enqueue_le {s : Spool} (h : s.Orderly) {now : Nat} {payload : Bytes} {disk : Disk}
    (hp : payload ≠ []) (hshows : ∀ n, disk.shows n = true) (hok : (s.enqueue now payload disk).1 = .ok ()) :
    totalSize (s.enqueue now payload disk).2.batches ≤ s.maxBytes := by
  obtain ⟨d, hplace, hord⟩ := id h
  have hsorted := (h.enqueue now payload disk).nodup_batches
  rcases enqueue_cases hplace now hp disk with ⟨-, -, heq⟩ | ⟨bs, hl, hgone, ⟨-, heq⟩ | ⟨hfit, heq⟩⟩
  · rw [heq] at hok
    exact absurd hok (by simp)
  · rw [heq] at hok
    exact absurd hok (by simp)
  have hw : disk.fails = none := by
    rw [heq, written] at hok
    cases hw : disk.fails with
    | none => rfl
    | some i =>
      rw [hw] at hok
      exact absurd hok (by simp)
  -- all batches are listed
  have hall : bs = s.batches := by
    rw [Spool.listed?, h.batches?] at hl
    split at hl
    · rw [Option.map_some, List.filter_eq_self.mpr fun b _ => hshows b.name] at hl
      exact (Option.some.inj hl).symm
    · exact absurd hl (by simp)
  have hsub : (s.evictions payload.length disk).Sublist s.batches := by
    rw [hgone, ← hall]
    exact evicted_sublist ..
  generalize s.evictions payload.length disk = gone at hsub hfit heq
  -- what makes room and what stays are the batches that were there
  have hrest : totalSize (s.batches.filter (· ∉ gone)) + totalSize gone ≤ totalSize s.batches := by
    rw [← totalSize_append]
    refine totalSize_le_of_subset ?_ ?_
    · refine List.Nodup.append (h.nodup_batches.filter _) (h.nodup_batches.sublist hsub) fun b hb hb' => ?_
      exact absurd hb' (by simpa using (List.mem_filter.mp hb).2)
    · exact List.append_subset.mpr ⟨List.filter_subset_self _, hsub.subset⟩
  have hnew : totalSize (s.enqueue now payload disk).2.batches ≤
      totalSize (⟨batchName (s.nextNanos now), payload⟩ :: s.batches.filter (· ∉ gone)) := by
    refine totalSize_le_of_subset hsorted fun b hb => ?_
    rw [heq, batches_of_place rfl, mem_batches_written_iff (hord.applyAll _) hw, mem_batches_removal_iff hord] at hb
    rcases hb with rfl | ⟨⟨hb, hname⟩, -⟩
    · exact List.mem_cons_self ..
    · refine List.mem_cons_of_mem _ (List.mem_filter.mpr ⟨batches_of_place hplace ▸ hb, ?_⟩)
      simpa using fun hmem : b ∈ gone => hname (List.mem_map_of_mem hmem)
  have hsize : StoredBatch.size ⟨batchName (s.nextNanos now), payload⟩ = payload.length := rfl
  rw [totalSize_cons, hsize] at hnew
  rw [hall] at hfit
  omega

/-! ## Whole runs -/

theorem callsOn_append (s : Spool) (cs cs' : List (Disk × Call)) :
    s.callsOn (cs ++ cs') = (s.callsOn cs).callsOn cs' :=
  List.foldl_append

theorem Orderly.callsOn {s : Spool} (h : s.Orderly) (cs : List (Disk × Call)) : (s.callsOn cs).Orderly := by
  induction cs generalizing s with
  | nil => exact h
  | cons x cs ih => exact ih (h.callOn x.1 x.2)

theorem maxBytes_callsOn (s : Spool) (cs : List (Disk × Call)) : (s.callsOn cs).maxBytes = s.maxBytes := by
  induction cs generalizing s with
  | nil => rfl
  | cons x cs ih =>
    refine (ih (s.callOn x.1 x.2).2).trans ?_
    obtain ⟨disk, c⟩ := x
    cases c with
    | enqueue now payload => exact maxBytes_enqueue s now payload disk
    | ack name => exact maxBytes_ack s name disk
    | _ => rfl

theorem AllKeep.left {found : List Name} {s : Spool} {cs cs' : List (Disk × Call)}
    (h : s.AllKeep found (cs ++ cs')) : s.AllKeep found cs := by
  induction cs generalizing found s with
  | nil => exact trivial
  | cons x cs ih => exact ⟨h.1, ih h.2⟩

/-- The batches are what is left of a directory without the foreign entries. -/
theorem Orderly.beside_onlyBatches {s : Spool} (h : s.Orderly) : Beside [] s s.onlyBatches := by
  obtain ⟨d, hplace, hord⟩ := id h
  have honly : s.onlyBatches =
      { s with place := .directory ⟨d.entries.filter fun x => (batchOf? x).isSome⟩ } := by
    rw [onlyBatches, hplace]
  have hbatches : (d.entries.filter fun x => (batchOf? x).isSome).filterMap batchOf? = d.entries.filterMap batchOf? := by
    rw [List.filterMap_filter]
    refine List.filterMap_congr fun x _ => ?_
    cases batchOf? x <;> rfl
  rw [honly]
  refine ⟨⟨h, ⟨_, rfl, List.Pairwise.filter _ hord⟩, ?_, rfl, rfl⟩, fun n hn => absurd hn List.not_mem_nil⟩
  rw [batches_of_place hplace, batches_of_place rfl]
  exact hbatches.symm

/-- What is known of a run beside foreign entries. -/
structure Apart (s : Spool) (cs : List (Disk × Call)) : Prop where
  /-- All calls answer what they answer on a directory with nothing but the batches. -/
  answers : s.answersOn cs = s.onlyBatches.answersOn cs
  /-- At any time the same batches are stored, and they stand in byte order of their names. -/
  same : ∀ before, before <+: cs → (s.callsOn before).batches = (s.onlyBatches.callsOn before).batches
  sorted : ∀ before, before <+: cs → (s.callsOn before).batches.Pairwise fun a b => a.name < b.name
  /-- Foreign entries are in the end what they were. -/
  foreign : ∀ n e, s.foreign? n = some e → (s.callsOn cs).foreign? n = some e
  /-- When a batch was stored all batches fit, whatever was there before. -/
  bounded : ∀ before disk now payload later, cs = before ++ (disk, .enqueue now payload) :: later → payload ≠ [] →
    (∀ n, disk.shows n = true) → ((s.callsOn before).callOn disk (.enqueue now payload)).1 = .done (.ok ()) →
      totalSize (s.callsOn (before ++ [(disk, .enqueue now payload)])).batches ≤ s.maxBytes

/-- **Foreign entries neither matter nor suffer**, as long as only batches that were found are removed and no name is
given that is theirs. -/
theorem foreign_entries_apart {s : Spool} (h : s.Orderly) {cs : List (Disk × Call)} (hkeep : s.AllKeep [] cs) :
    s.Apart cs := by
  have hbeside := h.beside_onlyBatches
  obtain ⟨hanswers, -, hforeign⟩ := hbeside.calls hkeep
  constructor
  · exact hanswers
  · rintro before ⟨later, rfl⟩
    exact (hbeside.calls hkeep.left).2.1.batches
  · intro before _
    exact (h.callsOn before).pairwise_batches
  · exact hforeign
  · intro before disk now payload later _ hp hshows hok
    rw [callsOn_append, ← maxBytes_callsOn s before]
    exact totalSize_enqueue_le (h.callsOn before) hp hshows (Answer.done.inj hok)

/-- A spool that was over its cap before, beside a temporary file, a directory with the name of a batch, another file
and a name that is no text. -/
def crowdedSpool : Spool where
  place := .directory ⟨[(batchName 4 ++ temporarySuffix, .file [8]), (Name.ofString "batch_a.json", .directory),
    (Name.ofString "batch_b.json", .file [1, 1, 1, 1]), (Name.ofString "notes.txt", .file [9]), ([255], .file [7])]⟩
  maxBytes := 3

/-- A planted batch makes room for one that is stored. That one is found and removed. -/
theorem planted_batch_evicted :
    let cs : List (Disk × Call) := [({}, .sizeBytes), ({}, .enqueue 5 [1, 2]), ({}, .dequeueOldest),
      ({}, .ack (batchName 5)), ({}, .count)]
    crowdedSpool.Orderly ∧ crowdedSpool.AllKeep [] cs ∧ crowdedSpool.Apart cs ∧
      crowdedSpool.sizeBytes = 4 ∧ (crowdedSpool.callsOn cs).count = 0 ∧
      (crowdedSpool.callsOn cs).foreign? (Name.ofString "batch_a.json") = some .directory := by
  intro cs
  have horderly : crowdedSpool.Orderly := ⟨_, rfl, by decide +kernel⟩
  have hkeep : crowdedSpool.AllKeep [] cs := by decide +kernel
  exact ⟨horderly, hkeep, foreign_entries_apart horderly hkeep, by decide +kernel, by decide +kernel,
    by decide +kernel⟩

end RouterTelemetry.Spool
