import RouterTelemetry.Proofs.Spool.Directory
/-!
# What the operations of the spool do to its batches

A spool that alone touches its directory is *tidy*: the directory holds batches whose names were given, and
what is left of batches that could not be written. Main statements, each for any failures of the file system:

* `batches_enqueue` : what becomes of the batches when one more is to be stored;
* `batches_ack` : what becomes of them when one is removed;
* `mem_of_dequeueOldest` : what is found is stored;
* `Lacks.enqueue`, `lacks_ack` : under which names there is no batch, also in a directory that is not tidy.
-/

namespace RouterTelemetry.Spool

open Text (Bytes)

/-! ## Eviction -/

theorem evicted_sublist (disk : Disk) (maxBytes needed current : Nat) (bs : List StoredBatch) :
    (evicted disk maxBytes needed current bs).Sublist bs := by
  induction bs generalizing current with
  | nil => exact List.Sublist.refl _
  | cons b bs ih =>
    rw [evicted]
    split
    · exact List.nil_sublist _
    · split
      · exact (ih _).cons_cons b
      · exact (ih _).cons b

/-- A listing shows stored batches only. -/
theorem mem_of_listed? {s : Spool} {disk : Disk} {bs : List StoredBatch}
    (h : s.listed? disk = some bs) {b : StoredBatch} (hb : b ∈ bs) : b ∈ s.batches := by
  unfold listed? at h
  split at h
  · obtain ⟨all, hall, rfl⟩ := Option.map_eq_some_iff.mp h
    rw [batches, hall]
    exact (List.mem_filter.mp hb).1
  · exact absurd h (by simp)

/-- Only stored batches make room. -/
theorem mem_of_mem_evictions {s : Spool} {needed : Nat} {disk : Disk} {b : StoredBatch}
    (h : b ∈ s.evictions needed disk) : b ∈ s.batches := by
  unfold evictions at h
  cases hl : s.listed? disk with
  | none =>
    rw [hl] at h
    exact absurd h List.not_mem_nil
  | some bs =>
    rw [hl] at h
    exact mem_of_listed? hl ((evicted_sublist ..).subset h)

/-- What stands under a name after some batches were removed. -/
theorem get?_removal (d : Directory) (bs : List StoredBatch) (n : Name) :
    (d.applyAll (removal bs)).get? n = if n ∈ bs.map StoredBatch.name then none else d.get? n := by
  induction bs generalizing d with
  | nil => rfl
  | cons b bs ih =>
    have hstep : d.applyAll (removal (b :: bs)) = (d.erase b.name).applyAll (removal bs) := rfl
    rw [hstep, ih, Directory.get?_erase]
    by_cases h : n = b.name <;> simp [h]

/-! ## Writing -/

/-- Whether an operation has to do with no name but `t`, which stays a file or nothing. -/
def Directory.Operation.On (t : Name) : Directory.Operation → Prop
  | .create n => n = t
  | .append n _ => n = t
  | .sync n => n = t
  | .rename _ _ => False
  | .remove n => n = t

theorem get?_applyAll_of_on {t n : Name} (hn : n ≠ t) {ops : List Directory.Operation}
    (h : ∀ op ∈ ops, op.On t) (d : Directory) : (d.applyAll ops).get? n = d.get? n := by
  induction ops generalizing d with
  | nil => rfl
  | cons op ops ih =>
    have hop : op.On t := h op (List.mem_cons_self ..)
    have hrest := ih (fun o ho => h o (List.mem_cons_of_mem _ ho)) (d.apply op)
    refine hrest.trans ?_
    cases op with
    | create m => simp_all [Directory.Operation.On, Directory.apply]
    | append m bytes =>
      rw [Directory.Operation.On] at hop
      rw [Directory.apply]
      split
      · rw [Directory.get?_put, if_neg (hop ▸ hn)]
      · rfl
    | sync m => rfl
    | rename m m' => exact hop.elim
    | remove m => simp_all [Directory.Operation.On, Directory.apply]

/-- A name that stands for a file or nothing still does after operations on it. -/
theorem isFile_applyAll_of_on {t : Name} {ops : List Directory.Operation}
    (h : ∀ op ∈ ops, op.On t) {d : Directory} (hd : ∀ e, d.get? t = some e → ∃ c, e = .file c) :
    ∀ e, (d.applyAll ops).get? t = some e → ∃ c, e = .file c := by
  induction ops generalizing d with
  | nil => exact hd
  | cons op ops ih =>
    have hop : op.On t := h op (List.mem_cons_self ..)
    refine ih (fun o ho => h o (List.mem_cons_of_mem _ ho)) (d := d.apply op) ?_
    intro e he
    cases op with
    | create m =>
      rw [Directory.Operation.On] at hop
      subst hop
      rw [Directory.apply, Directory.get?_put, if_pos rfl] at he
      exact ⟨_, (Option.some.inj he).symm⟩
    | append m bytes =>
      rw [Directory.Operation.On] at hop
      subst hop
      rw [Directory.apply] at he
      split at he
      · rw [Directory.get?_put, if_pos rfl] at he
        exact ⟨_, (Option.some.inj he).symm⟩
      · exact hd e he
    | sync m => exact hd e he
    | rename m m' => exact hop.elim
    | remove m => simp_all [Directory.Operation.On, Directory.apply]

/-- Writing that succeeds puts the whole batch under its name. -/
theorem get?_written {disk : Disk} (h : disk.fails = none) (d : Directory) (name : Name)
    (payload : Bytes) (n : Name) :
    (d.applyAll (written disk name payload).2).get? n =
      if n = name then some (.file payload)
      else if n = name ++ temporarySuffix then none
      else d.get? n := by
  rw [written, h]
  simp only [store, Directory.applyAll, List.foldl_cons, List.foldl_nil, Directory.apply,
    Directory.get?_put, if_true, List.nil_append, List.take_append_drop, Directory.get?_erase]
  by_cases hname : n = name
  · simp [hname]
  · by_cases htmp : n = name ++ temporarySuffix <;> simp [hname, htmp]

/-- The renaming is the last of the five calls that write a batch. -/
theorem on_of_mem_take_store {name : Name} {payload : Bytes} {split k : Nat} (hk : k ≤ 4)
    {op : Directory.Operation} (h : op ∈ (store name payload split).take k) :
    op.On (name ++ temporarySuffix) := by
  have hsub : op ∈ (store name payload split).take 4 := (List.take_prefix_take_left hk).subset h
  simp only [store, List.take_succ_cons, List.take_zero, List.mem_cons, List.not_mem_nil, or_false] at hsub
  rcases hsub with rfl | rfl | rfl | rfl <;> rfl

/-- Writing that fails has to do with the temporary file only. -/
theorem on_of_mem_written {disk : Disk} {i : Fin 5} (h : disk.fails = some i) (name : Name)
    (payload : Bytes) :
    ∀ op ∈ (written disk name payload).2, op.On (name ++ temporarySuffix) := by
  intro op hop
  rw [written, h] at hop
  rcases List.mem_append.mp hop with hcall | hremove
  · exact on_of_mem_take_store (by omega) hcall
  · split at hremove
    · rw [List.mem_singleton] at hremove
      exact hremove ▸ rfl
    · exact absurd hremove List.not_mem_nil

/-! ## Tidy spools -/

/-- The name of a batch, or of its temporary file, was given by the spool. -/
def Gave (s : Spool) (n : Name) : Prop :=
  ∃ k ≤ s.lastNanos, n = batchName k ∨ n = batchName k ++ temporarySuffix

/-- Nothing but files whose names the spool has given stands in its directory. -/
def Tidy (s : Spool) : Prop :=
  ∃ d, s.place = .directory d ∧ d.Ordered ∧
    ∀ n e, d.get? n = some e → s.Gave n ∧ ∃ c, e = .file c

/-- A spool with an empty directory is tidy. -/
theorem tidy_empty (s : Spool) (h : s.place = .directory {}) : s.Tidy :=
  ⟨{}, h, List.Pairwise.nil, fun _ _ he => by simp [Directory.get?] at he⟩

theorem batches_of_place {s : Spool} {d : Directory} (h : s.place = .directory d) :
    s.batches = d.batches := by
  rw [batches, batches?, h]
  rfl

/-- The batches of a tidy spool. -/
theorem mem_batches_of_place {s : Spool} {d : Directory} (h : s.place = .directory d)
    (hd : d.Ordered) {b : StoredBatch} :
    b ∈ s.batches ↔ d.get? b.name = some (.file b.content) ∧ isBatchName b.name := by
  rw [batches_of_place h, hd.mem_batches]

/-- What stands at the path of the spool is a directory, listed in the order of its names. -/
def Orderly (s : Spool) : Prop :=
  ∃ d, s.place = .directory d ∧ d.Ordered

theorem Tidy.orderly {s : Spool} (h : s.Tidy) : s.Orderly := by
  obtain ⟨d, hplace, hord, -⟩ := h
  exact ⟨d, hplace, hord⟩

/-- The batches of a directory stand in strict order of their names. -/
theorem Orderly.pairwise_batches {s : Spool} (h : s.Orderly) :
    s.batches.Pairwise fun a b => a.name < b.name := by
  obtain ⟨d, hplace, hord⟩ := h
  rw [batches_of_place hplace]
  exact hord.pairwise_batches

theorem Tidy.pairwise_batches {s : Spool} (h : s.Tidy) :
    s.batches.Pairwise fun a b => a.name < b.name :=
  h.orderly.pairwise_batches

/-- Each name stands for one batch. -/
theorem Tidy.eq_of_name_eq {s : Spool} (h : s.Tidy) {a b : StoredBatch} (ha : a ∈ s.batches)
    (hb : b ∈ s.batches) (hab : a.name = b.name) : a = b := by
  obtain ⟨d, hplace, hord, -⟩ := h
  rw [batches_of_place hplace] at ha hb
  exact hord.eq_of_name_eq ha hb hab

/-- The name of a batch is one that was given. -/
theorem Tidy.exists_batchName {s : Spool} (h : s.Tidy) {b : StoredBatch} (hb : b ∈ s.batches) :
    ∃ k ≤ s.lastNanos, b.name = batchName k := by
  obtain ⟨d, hplace, hord, hgave⟩ := h
  obtain ⟨hget, hname⟩ := (mem_batches_of_place hplace hord).mp hb
  obtain ⟨⟨k, hk, hn | hn⟩, -⟩ := hgave _ _ hget
  · exact ⟨k, hk, hn⟩
  · rw [hn, isBatchName_temporary] at hname
    exact Bool.noConfusion hname

/-! ## Storing -/

/-- The directory after room was made holds what does not have the name of something that had to go. -/
theorem mem_batches_removal_iff {d : Directory} (hd : d.Ordered) (gone : List StoredBatch)
    {b : StoredBatch} :
    b ∈ (d.applyAll (removal gone)).batches ↔
      b ∈ d.batches ∧ b.name ∉ gone.map StoredBatch.name := by
  rw [(hd.applyAll _).mem_batches, get?_removal, hd.mem_batches]
  by_cases hname : b.name ∈ gone.map StoredBatch.name
  · simp [hname]
  · simp [hname]

/-- The directory after room was made holds what did not have to go. -/
theorem mem_batches_removal {d : Directory} (hd : d.Ordered) {gone : List StoredBatch}
    (hgone : ∀ b ∈ gone, b ∈ d.batches) {b : StoredBatch} :
    b ∈ (d.applyAll (removal gone)).batches ↔ b ∈ d.batches ∧ b ∉ gone := by
  rw [mem_batches_removal_iff hd]
  refine and_congr_right fun hb => not_congr ⟨fun hname => ?_, List.mem_map_of_mem⟩
  obtain ⟨c, hc, hcb⟩ := List.mem_map.mp hname
  exact hd.eq_of_name_eq (hgone c hc) hb hcb ▸ hc

/-- A name that is given now was not given before. -/
theorem Gave.ne_batchName {s : Spool} {n : Name} (h : s.Gave n) {k : Nat} (hk : s.lastNanos < k) :
    n ≠ batchName k := by
  obtain ⟨j, hj, rfl | rfl⟩ := h
  · intro heq
    have := batchName_injective heq
    omega
  · exact temporary_ne_batchName _ _

/-- A batch that is written whole takes the place of one with the same name. -/
theorem mem_batches_written_iff {d : Directory} (hd : d.Ordered) {disk : Disk}
    (hw : disk.fails = none) (k : Nat) (payload : Bytes) {b : StoredBatch} :
    b ∈ (d.applyAll (written disk (batchName k) payload).2).batches ↔
      b = ⟨batchName k, payload⟩ ∨ (b ∈ d.batches ∧ b.name ≠ batchName k) := by
  rw [(hd.applyAll _).mem_batches, hd.mem_batches, get?_written hw]
  obtain ⟨n, c⟩ := b
  simp only [StoredBatch.mk.injEq]
  by_cases hname : n = batchName k
  · subst hname
    simp [eq_comm]
  · by_cases htmp : n = batchName k ++ temporarySuffix
    · have hne : temporarySuffix ≠ [] := by decide
      subst htmp
      simp [hne]
    · simp [hname, htmp]

/-- A batch that is written whole stands beside those that were there. -/
theorem mem_batches_written {d : Directory} (hd : d.Ordered) {disk : Disk} (hw : disk.fails = none)
    {k : Nat} (hfresh : d.get? (batchName k) = none) (payload : Bytes) {b : StoredBatch} :
    b ∈ (d.applyAll (written disk (batchName k) payload).2).batches ↔
      b ∈ d.batches ∨ b = ⟨batchName k, payload⟩ := by
  rw [mem_batches_written_iff hd hw, or_comm]
  refine or_congr_left ⟨And.left, fun hb => ⟨hb, fun hname => ?_⟩⟩
  rw [hd.mem_batches, hname, hfresh] at hb
  exact absurd hb.1 (by simp)

/-- A batch that could not be written changes no batch. -/
theorem mem_batches_written_of_fails {d : Directory} (hd : d.Ordered) {disk : Disk} {i : Fin 5}
    (hw : disk.fails = some i) (name : Name) (payload : Bytes) {b : StoredBatch} :
    b ∈ (d.applyAll (written disk name payload).2).batches ↔ b ∈ d.batches := by
  rw [(hd.applyAll _).mem_batches, hd.mem_batches]
  by_cases htmp : b.name = name ++ temporarySuffix
  · simp [htmp]
  · rw [get?_applyAll_of_on htmp (on_of_mem_written hw name payload)]

/-- Writing leaves nothing but the batch or its temporary file behind. -/
theorem get?_written_cases {d : Directory} {disk : Disk} {name : Name} {payload : Bytes} {n : Name}
    {e : Entry} (hd : ∀ e, d.get? (name ++ temporarySuffix) = some e → ∃ c, e = .file c)
    (h : (d.applyAll (written disk name payload).2).get? n = some e) :
    d.get? n = some e ∨ ((n = name ∨ n = name ++ temporarySuffix) ∧ ∃ c, e = .file c) := by
  cases hw : disk.fails with
  | none =>
    rw [get?_written hw] at h
    split at h
    · next hn => exact Or.inr ⟨Or.inl hn, _, (Option.some.inj h).symm⟩
    · split at h
      · exact absurd h (by simp)
      · exact Or.inl h
  | some i =>
    have hon := on_of_mem_written hw name payload
    by_cases hn : n = name ++ temporarySuffix
    · subst hn
      exact Or.inr ⟨Or.inr rfl, isFile_applyAll_of_on hon hd e h⟩
    · rw [get?_applyAll_of_on hn hon] at h
      exact Or.inl h

/-- The ways in which storing a batch can go: the directory cannot be listed, the batch does not fit, or
it is written, which may succeed or fail. -/
theorem enqueue_cases {s : Spool} {d : Directory} (hplace : s.place = .directory d) (now : Nat)
    {payload : Bytes} (hp : payload ≠ []) (disk : Disk) :
    (s.listed? disk = none ∧ s.evictions payload.length disk = [] ∧
        s.enqueue now payload disk = (.error .storage, s)) ∨
      ∃ bs, s.listed? disk = some bs ∧
        s.evictions payload.length disk =
          evicted disk s.maxBytes payload.length (totalSize bs) bs ∧
        let gone := s.evictions payload.length disk
        let room := d.applyAll (removal gone)
        let nanos := s.nextNanos now
        (s.maxBytes < totalSize bs - totalSize gone + payload.length ∧
            s.enqueue now payload disk =
              (.error (.full payload.length s.maxBytes), { s with place := .directory room })) ∨
          (totalSize bs - totalSize gone + payload.length ≤ s.maxBytes ∧
            s.enqueue now payload disk =
              ((written disk (batchName nanos) payload).1,
                { s with
                  place := .directory
                    (room.applyAll (written disk (batchName nanos) payload).2)
                  lastNanos := nanos })) := by
  have hne : ¬ payload.isEmpty = true := by simpa using hp
  rw [enqueue, if_neg hne, hplace]
  cases hl : s.listed? disk with
  | none => exact Or.inl ⟨rfl, by rw [evictions, hl], rfl⟩
  | some bs =>
    refine Or.inr ⟨bs, rfl, by rw [evictions, hl], ?_⟩
    by_cases hfit : totalSize bs - totalSize (s.evictions payload.length disk) + payload.length
        ≤ s.maxBytes
    · exact Or.inr ⟨hfit, by simp only [if_pos hfit]⟩
    · exact Or.inl ⟨by omega, by simp only [if_neg hfit]⟩

/-- The greatest size of all batches never changes. -/
@[simp]
theorem maxBytes_enqueue (s : Spool) (now : Nat) (payload : Bytes) (disk : Disk) :
    (s.enqueue now payload disk).2.maxBytes = s.maxBytes := by
  unfold enqueue
  split
  · rfl
  · split
    · dsimp only
      split <;> rfl
    · rfl

theorem lastNanos_lt_nextNanos (s : Spool) (now : Nat) : s.lastNanos < s.nextNanos now := by
  unfold nextNanos
  omega

/-- Names only ever become later. -/
theorem lastNanos_le_enqueue (s : Spool) (now : Nat) (payload : Bytes) (disk : Disk) :
    s.lastNanos ≤ (s.enqueue now payload disk).2.lastNanos := by
  have hlater := lastNanos_lt_nextNanos s now
  unfold enqueue
  split
  · exact Nat.le_refl _
  · split
    · dsimp only
      split
      · exact Nat.le_of_lt hlater
      · exact Nat.le_refl _
    · exact Nat.le_refl _

/-- What becomes of the batches when one more is to be stored. Some have made room, whether or not it is
stored in the end; its name is new. -/
theorem batches_enqueue {s : Spool} (h : s.Tidy) (now : Nat) {payload : Bytes} (hp : payload ≠ [])
    (disk : Disk) :
    (s.enqueue now payload disk).2.Tidy ∧
      (((s.enqueue now payload disk).1 = .ok () ∧
          (s.enqueue now payload disk).2.lastNanos = s.nextNanos now ∧
          ∀ b, b ∈ (s.enqueue now payload disk).2.batches ↔
            b ∈ s.batches ∧ b ∉ s.evictions payload.length disk ∨
              b = ⟨batchName (s.nextNanos now), payload⟩) ∨
        ((∃ e, (s.enqueue now payload disk).1 = .error e) ∧
          ∀ b, b ∈ (s.enqueue now payload disk).2.batches ↔
            b ∈ s.batches ∧ b ∉ s.evictions payload.length disk)) := by
  obtain ⟨d, hplace, hord, hgave⟩ := id h
  have hlater := lastNanos_lt_nextNanos s now
  -- the directory once room was made
  have hmem (b : StoredBatch) :
      b ∈ (d.applyAll (removal (s.evictions payload.length disk))).batches ↔
        b ∈ s.batches ∧ b ∉ s.evictions payload.length disk := by
    rw [batches_of_place hplace]
    exact mem_batches_removal hord fun c hc => batches_of_place hplace ▸ mem_of_mem_evictions hc
  have hroom : ∀ n e,
      (d.applyAll (removal (s.evictions payload.length disk))).get? n = some e →
        s.Gave n ∧ ∃ c, e = .file c := by
    intro n e he
    rw [get?_removal] at he
    split at he
    · exact absurd he (by simp)
    · exact hgave n e he
  have hroomOrd : (d.applyAll (removal (s.evictions payload.length disk))).Ordered :=
    hord.applyAll _
  rcases enqueue_cases hplace now hp disk with ⟨-, hgone, heq⟩ | ⟨bs, -, -, hcase⟩
  · rw [heq]
    exact ⟨h, Or.inr ⟨⟨_, rfl⟩, fun b => by simp [hgone]⟩⟩
  · rcases hcase with ⟨-, heq⟩ | ⟨-, heq⟩
    · rw [heq]
      refine ⟨⟨_, rfl, hroomOrd, hroom⟩, Or.inr ⟨⟨_, rfl⟩, fun b => ?_⟩⟩
      rw [batches_of_place rfl]
      exact hmem b
    · rw [heq]
      refine ⟨⟨_, rfl, hroomOrd.applyAll _, fun n e he => ?_⟩, ?_⟩
      · -- what is new in the directory is the batch or its temporary file
        rcases get?_written_cases (fun e he => (hroom _ e he).2) he with hold | ⟨hn, hfile⟩
        · obtain ⟨⟨k, hk, hn⟩, hfile⟩ := hroom n e hold
          exact ⟨⟨k, Nat.le_trans hk (Nat.le_of_lt hlater), hn⟩, hfile⟩
        · exact ⟨⟨s.nextNanos now, Nat.le_refl _, hn⟩, hfile⟩
      · -- the name is later than all that were given, so nothing stands under it
        have hfresh : (d.applyAll (removal (s.evictions payload.length disk))).get?
            (batchName (s.nextNanos now)) = none := by
          rw [Option.eq_none_iff_forall_ne_some]
          exact fun e he => (hroom _ e he).1.ne_batchName hlater rfl
        cases hw : disk.fails with
        | none =>
          refine Or.inl ⟨by rw [written, hw], rfl, fun b => ?_⟩
          rw [batches_of_place rfl, mem_batches_written hroomOrd hw hfresh, hmem b]
        | some i =>
          refine Or.inr ⟨⟨.storage, by rw [written, hw]⟩, fun b => ?_⟩
          rw [batches_of_place rfl, mem_batches_written_of_fails hroomOrd hw, hmem b]

/-! ## Looking and removing -/

/-- What is found is stored. -/
theorem mem_of_dequeueOldest {s : Spool} {disk : Disk} {b : StoredBatch}
    (h : s.dequeueOldest disk = .ok b) : b ∈ s.batches := by
  unfold dequeueOldest at h
  split at h
  · exact absurd h (by simp)
  · exact absurd h (by simp)
  · next c rest hl =>
    split at h
    · obtain rfl := Except.ok.inj h
      exact mem_of_listed? hl (List.mem_cons_self ..)
    · exact absurd h (by simp)

/-- The ways in which removing a batch can go: it is not there, it is removed, or that fails. -/
theorem ack_cases {s : Spool} {d : Directory} (hplace : s.place = .directory d) {name : Name}
    (hfile : ∀ e, d.get? name = some e → ∃ c, e = .file c) (disk : Disk) :
    (d.get? name = none ∧ s.ack name disk = (.ok (), s)) ∨
      (disk.removes name = true ∧
        s.ack name disk = (.ok (), { s with place := .directory (d.erase name) })) ∨
      (disk.removes name = false ∧ s.ack name disk = (.error .storage, s)) := by
  cases hget : d.get? name with
  | none => exact Or.inl ⟨rfl, by simp only [Spool.ack, hplace, hget]⟩
  | some e =>
    obtain ⟨c, rfl⟩ := hfile e hget
    cases hr : disk.removes name with
    | true => exact Or.inr (Or.inl ⟨rfl, by simp only [Spool.ack, hplace, hget, hr, if_true]; rfl⟩)
    | false => exact Or.inr (Or.inr ⟨rfl, by simp [Spool.ack, hplace, hget, hr]⟩)

@[simp]
theorem lastNanos_ack (s : Spool) (name : Name) (disk : Disk) :
    (s.ack name disk).2.lastNanos = s.lastNanos := by
  unfold ack
  split
  · rfl
  · rfl
  · split
    · rfl
    · rfl
    · split <;> rfl

@[simp]
theorem maxBytes_ack (s : Spool) (name : Name) (disk : Disk) :
    (s.ack name disk).2.maxBytes = s.maxBytes := by
  unfold ack
  split
  · rfl
  · rfl
  · split
    · rfl
    · rfl
    · split <;> rfl

/-- What becomes of the batches when one is to be removed: it is gone, or nothing has changed. -/
theorem batches_ack {s : Spool} (h : s.Tidy) (name : Name) (disk : Disk) :
    (s.ack name disk).2.Tidy ∧
      (((s.ack name disk).1 = .ok () ∧
          ∀ b, b ∈ (s.ack name disk).2.batches ↔ b ∈ s.batches ∧ b.name ≠ name) ∨
        ((∃ e, (s.ack name disk).1 = .error e) ∧ (s.ack name disk).2 = s)) := by
  obtain ⟨d, hplace, hord, hgave⟩ := id h
  rcases ack_cases hplace (fun e he => (hgave name e he).2) disk with
    ⟨hget, heq⟩ | ⟨-, heq⟩ | ⟨-, heq⟩
  · rw [heq]
    refine ⟨h, Or.inl ⟨rfl, fun b => ⟨fun hb => ⟨hb, ?_⟩, And.left⟩⟩⟩
    rintro rfl
    rw [mem_batches_of_place hplace hord, hget] at hb
    exact absurd hb.1 (by simp)
  · rw [heq]
    refine ⟨⟨_, rfl, hord.erase name, fun n e he => ?_⟩, Or.inl ⟨rfl, fun b => ?_⟩⟩
    · rw [Directory.get?_erase] at he
      split at he
      · exact absurd he (by simp)
      · exact hgave n e he
    · rw [batches_of_place rfl, (hord.erase name).mem_batches, Directory.get?_erase,
        mem_batches_of_place hplace hord]
      by_cases hn : b.name = name <;> simp [hn]
  · rw [heq]
    exact ⟨h, Or.inr ⟨⟨_, rfl⟩, rfl⟩⟩

/-! ## Batches that were stored -/

/-- A batch is or was stored: the spool has given its name, and no other batch has it. -/
def Knows (s : Spool) (b : StoredBatch) : Prop :=
  (∃ k ≤ s.lastNanos, b.name = batchName k) ∧ ∀ c ∈ s.batches, c.name = b.name → c = b

theorem Tidy.knows {s : Spool} (h : s.Tidy) {b : StoredBatch} (hb : b ∈ s.batches) : s.Knows b :=
  ⟨h.exists_batchName hb, fun _ hc hname => h.eq_of_name_eq hc hb hname⟩

/-- The name of a batch is never given again, however the clock goes. -/
theorem Knows.name_ne {s : Spool} {b : StoredBatch} (h : s.Knows b) (now : Nat) :
    b.name ≠ batchName (s.nextNanos now) := by
  obtain ⟨⟨k, hk, hname⟩, -⟩ := h
  intro heq
  have hsame := batchName_injective (hname.symm.trans heq)
  have hlater := lastNanos_lt_nextNanos s now
  omega

theorem Knows.enqueue {s : Spool} {b : StoredBatch} (h : s.Knows b) (hs : s.Tidy) (now : Nat)
    {payload : Bytes} (hp : payload ≠ []) (disk : Disk) :
    (s.enqueue now payload disk).2.Knows b := by
  obtain ⟨⟨k, hk, hname⟩, honly⟩ := id h
  refine ⟨⟨k, Nat.le_trans hk (lastNanos_le_enqueue ..), hname⟩, fun c hc hcb => ?_⟩
  rcases (batches_enqueue hs now hp disk).2 with ⟨-, -, hmem⟩ | ⟨-, hmem⟩
  · rcases (hmem c).mp hc with ⟨hold, -⟩ | rfl
    · exact honly c hold hcb
    · exact absurd hcb.symm (h.name_ne now)
  · exact honly c ((hmem c).mp hc).1 hcb

theorem Knows.ack {s : Spool} {b : StoredBatch} (h : s.Knows b) (hs : s.Tidy) (name : Name)
    (disk : Disk) : (s.ack name disk).2.Knows b := by
  obtain ⟨hname, honly⟩ := h
  refine ⟨by rwa [lastNanos_ack], fun c hc hcb => ?_⟩
  rcases (batches_ack hs name disk).2 with ⟨-, hmem⟩ | ⟨-, hsame⟩
  · exact honly c ((hmem c).mp hc).1 hcb
  · exact honly c (hsame ▸ hc) hcb

/-! ## Names that are not there -/

/-- No batch is stored under a name. -/
def Lacks (s : Spool) (n : Name) : Prop :=
  ∀ b ∈ s.batches, b.name ≠ n

/-- Whether an operation can put a file under a name that stands for none. -/
def Directory.Operation.Makes (n : Name) : Directory.Operation → Prop
  | .create m => m = n
  | .rename _ m => m = n
  | _ => False

theorem mem_of_mem_put {d : Directory} {m n : Name} {e f : Entry} (hn : m ≠ n)
    (h : (n, f) ∈ (d.put m e).entries) : (n, f) ∈ d.entries :=
  (Directory.fst_of_mem_insert h).resolve_left (Ne.symm hn)

theorem mem_of_mem_erase {d : Directory} {m : Name} {x : Name × Entry}
    (h : x ∈ (d.erase m).entries) : x ∈ d.entries :=
  (List.mem_filter.mp h).1

/-- Under another name an operation makes no file. -/
theorem file_not_mem_apply {n : Name} {op : Directory.Operation} (hop : ¬ op.Makes n) {d : Directory}
    (h : ∀ c, (n, Entry.file c) ∉ d.entries) (c : Bytes) :
    (n, Entry.file c) ∉ (d.apply op).entries := by
  intro hmem
  cases op with
  | create m => exact h c (mem_of_mem_put hop hmem)
  | append m bytes =>
    rw [Directory.apply] at hmem
    split at hmem
    · next content hget =>
      by_cases hm : m = n
      · -- the file that is added to would be there already
        have hthere : (m, Entry.file content) ∈ d.entries := by
          obtain ⟨front, back, hsplit, -⟩ := List.lookup_eq_some_iff.mp hget
          exact hsplit ▸ List.mem_append_right _ (List.mem_cons_self ..)
        exact h content (hm ▸ hthere)
      · exact h c (mem_of_mem_put hm hmem)
    · exact h c hmem
  | sync m => exact h c hmem
  | rename m m' =>
    rw [Directory.apply] at hmem
    split at hmem
    · exact h c (mem_of_mem_erase (mem_of_mem_put hop hmem))
    · exact h c hmem
  | remove m => exact h c (mem_of_mem_erase hmem)

theorem file_not_mem_applyAll {n : Name} {ops : List Directory.Operation}
    (hops : ∀ op ∈ ops, ¬ op.Makes n) {d : Directory} (h : ∀ c, (n, Entry.file c) ∉ d.entries) :
    ∀ c, (n, Entry.file c) ∉ (d.applyAll ops).entries := by
  induction ops generalizing d with
  | nil => exact h
  | cons op ops ih =>
    exact ih (fun o ho => hops o (List.mem_cons_of_mem _ ho))
      (file_not_mem_apply (hops op (List.mem_cons_self ..)) h)

/-- A batch is written under its own name only, and only if writing succeeds. -/
theorem not_makes_written {n : Name} (hn : isBatchName n = true) {disk : Disk} {name : Name}
    {payload : Bytes} (hfresh : (written disk name payload).1 = .ok () → n ≠ name) :
    ∀ op ∈ (written disk name payload).2, ¬ op.Makes n := by
  have htmp : n ≠ name ++ temporarySuffix := by
    rintro rfl
    rw [isBatchName_temporary] at hn
    exact Bool.noConfusion hn
  intro op hop hmakes
  cases hw : disk.fails with
  | some i =>
    have hon := on_of_mem_written hw name payload op hop
    cases op with
    | create m => exact htmp (hmakes.symm.trans hon)
    | rename m m' => exact hon
    | _ => exact hmakes
  | none =>
    rw [written, hw] at hop hfresh
    simp only [store, List.mem_cons, List.not_mem_nil, or_false] at hop
    rcases hop with rfl | rfl | rfl | rfl | rfl
    · exact htmp hmakes.symm
    · exact hmakes
    · exact hmakes
    · exact hmakes
    · exact hfresh rfl hmakes.symm

theorem lacks_iff {s : Spool} {d : Directory} (hplace : s.place = .directory d) {n : Name} :
    s.Lacks n ↔ (isBatchName n = true → ∀ c, (n, Entry.file c) ∉ d.entries) := by
  rw [Lacks, batches_of_place hplace, Directory.batches]
  constructor
  · intro h hn c hmem
    exact h ⟨n, c⟩ (Directory.mem_filterMap_batchOf?.mpr ⟨hmem, hn⟩) rfl
  · rintro h b hb rfl
    obtain ⟨hmem, hn⟩ := Directory.mem_filterMap_batchOf?.mp hb
    exact h hn b.content hmem

/-- Storing under another name, or in vain, puts no batch under a name. -/
theorem Lacks.enqueue {s : Spool} {n : Name} (h : s.Lacks n) (now : Nat) (payload : Bytes) (disk : Disk)
    (hfresh : (s.enqueue now payload disk).1 = .ok () → n ≠ batchName (s.nextNanos now)) :
    (s.enqueue now payload disk).2.Lacks n := by
  by_cases hp : payload = []
  · subst hp
    exact h
  cases hplace : s.place with
  | directory d =>
    have hentries := (lacks_iff hplace).mp h
    have hroom (hn : isBatchName n = true) :
        ∀ c, (n, Entry.file c) ∉
          (d.applyAll (removal (s.evictions payload.length disk))).entries := by
      refine file_not_mem_applyAll (fun op hop => ?_) (hentries hn)
      obtain ⟨b, -, rfl⟩ := List.mem_map.mp hop
      exact id
    rcases enqueue_cases hplace now hp disk with ⟨-, -, heq⟩ | ⟨bs, -, -, ⟨-, heq⟩ | ⟨-, heq⟩⟩
    · rwa [heq]
    · rw [heq]
      exact (lacks_iff rfl).mpr hroom
    · rw [heq] at hfresh ⊢
      exact (lacks_iff rfl).mpr fun hn =>
        file_not_mem_applyAll (not_makes_written hn hfresh) (hroom hn)
  | absent =>
    have hsame : (s.enqueue now payload disk).2 = s := by simp [Spool.enqueue, hp, hplace]
    rwa [hsame]
  | file =>
    have hsame : (s.enqueue now payload disk).2 = s := by simp [Spool.enqueue, hp, hplace]
    rwa [hsame]

/-- What becomes of the spool when a batch is to be removed: it was not there, or it is erased, or that
fails. -/
theorem ack_snd_cases (s : Spool) (name : Name) (disk : Disk) :
    (s.ack name disk).2 = s ∨ ∃ d, s.place = .directory d ∧
      (s.ack name disk).2 = { s with place := .directory (d.erase name) } := by
  unfold Spool.ack
  split
  · exact Or.inl rfl
  · exact Or.inl rfl
  · next d hplace =>
    split
    · exact Or.inl rfl
    · exact Or.inl rfl
    · split
      · exact Or.inr ⟨d, hplace, rfl⟩
      · exact Or.inl rfl

theorem Orderly.enqueue {s : Spool} (h : s.Orderly) (now : Nat) (payload : Bytes) (disk : Disk) :
    (s.enqueue now payload disk).2.Orderly := by
  by_cases hp : payload = []
  · subst hp
    exact h
  obtain ⟨d, hplace, hord⟩ := id h
  rcases enqueue_cases hplace now hp disk with ⟨-, -, heq⟩ | ⟨bs, -, -, ⟨-, heq⟩ | ⟨-, heq⟩⟩
  · rwa [heq]
  · rw [heq]
    exact ⟨_, rfl, hord.applyAll _⟩
  · rw [heq]
    exact ⟨_, rfl, (hord.applyAll _).applyAll _⟩

theorem Orderly.ack {s : Spool} (h : s.Orderly) (name : Name) (disk : Disk) :
    (s.ack name disk).2.Orderly := by
  rcases s.ack_snd_cases name disk with heq | ⟨d, hplace, heq⟩
  · rwa [heq]
  · obtain ⟨d', hplace', hord⟩ := h
    obtain rfl := Place.directory.inj (hplace.symm.trans hplace')
    rw [heq]
    exact ⟨_, rfl, hord.erase name⟩

/-- Removing puts no batch under a name. -/
theorem Lacks.ack {s : Spool} {n : Name} (h : s.Lacks n) (name : Name) (disk : Disk) :
    (s.ack name disk).2.Lacks n := by
  rcases s.ack_snd_cases name disk with heq | ⟨d, hplace, heq⟩
  · rwa [heq]
  · rw [heq]
    exact (lacks_iff rfl).mpr fun hn c hmem =>
      (lacks_iff hplace).mp h hn c (mem_of_mem_erase hmem)

/-- A batch that was removed is not there any more. -/
theorem lacks_ack {s : Spool} {name : Name} {disk : Disk} (h : (s.ack name disk).1 = .ok ()) :
    (s.ack name disk).2.Lacks name := by
  unfold Spool.ack at h ⊢
  cases hplace : s.place with
  | absent =>
    simp [Lacks, batches, batches?, hplace]
  | file => simp [hplace] at h
  | directory d =>
    simp only [hplace] at h ⊢
    cases hget : d.get? name with
    | none =>
      have hnone := List.lookup_eq_none_iff.mp hget
      exact (lacks_iff hplace).mpr fun _ c hmem => by simpa using hnone _ hmem
    | some e =>
      cases e with
      | directory => simp [hget] at h
      | file content =>
        cases hr : disk.removes name with
        | false => simp [hget, hr] at h
        | true =>
          rw [if_pos rfl]
          refine (lacks_iff rfl).mpr fun _ c hmem => ?_
          exact bne_iff_ne.mp (List.mem_filter.mp hmem).2 rfl

end RouterTelemetry.Spool
