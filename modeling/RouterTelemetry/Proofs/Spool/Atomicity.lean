import RouterTelemetry.Proofs.Spool.Contents
/-!
# Storing a batch is atomic

Storing a batch is a sequence of operations of the file system: the removals that make room, and those that write
the batch under a temporary name, sync it and rename it. The call may stop after any of them, and what was written and
not synced may be anything after a crash. At every instant a listing shows whole batches only. Main statements:

* `place_enqueue` : storing makes these operations and no others;
* `unsynced_of_on` : what is not synced is the temporary file;
* `mem_batches_of_crash`, `mem_batches_enqueue` : what is shown at every instant and after a crash, and when the call
  has returned;
* `enqueue_atomic` : all of it, for a batch that may be empty.
-/

namespace RouterTelemetry.Spool

open Text (Bytes)

/-! ## Operations and crashes -/

/-- The operations that are made when a batch is stored at the time `now`. -/
def operations (s : Spool) (now : Nat) (payload : Bytes) (disk : Disk) : List Directory.Operation :=
  match s.listed? disk with
  | none => []
  | some bs =>
    let gone := s.evictions payload.length disk
    removal gone ++
      if totalSize bs - totalSize gone + payload.length ≤ s.maxBytes then
        (written disk (batchName (s.nextNanos now)) payload).2
      else []

theorem operations_eq {s : Spool} {disk : Disk} {bs : List StoredBatch} (hl : s.listed? disk = some bs) (now : Nat)
    (payload : Bytes) : s.operations now payload disk =
      removal (s.evictions payload.length disk) ++
        if totalSize bs - totalSize (s.evictions payload.length disk) + payload.length ≤ s.maxBytes then
          (written disk (batchName (s.nextNanos now)) payload).2
        else [] := by
  rw [operations, hl]

/-- The files with content that a crash may change, after an operation. -/
def Directory.unsyncedAfter (names : List Name) : Directory.Operation → List Name
  | .create n => n :: names
  | .append n _ => n :: names
  | .sync n => names.filter (· != n)
  | .rename n m =>
    if n ∈ names then m :: names.filter (· != n) else names.filter (· != m)
  | .remove n => names.filter (· != n)

/-- The files with content that a crash may change, after some operations. -/
def Directory.unsynced (ops : List Directory.Operation) : List Name :=
  ops.foldl Directory.unsyncedAfter []

/-- What a crash after some operations may leave: the directory as it was, but for the content of files that are
not synced. -/
def Directory.CrashState (d : Directory) (ops : List Directory.Operation) (d' : Directory) : Prop :=
  d'.Ordered ∧ ∀ n, n ∉ Directory.unsynced ops → d'.get? n = (d.applyAll ops).get? n

/-- Storing makes these operations and no others. -/
theorem place_enqueue {s : Spool} {d : Directory} (hplace : s.place = .directory d) (now : Nat)
    {payload : Bytes} (hp : payload ≠ []) (disk : Disk) :
    (s.enqueue now payload disk).2.place = .directory (d.applyAll (s.operations now payload disk)) := by
  rcases enqueue_cases hplace now hp disk with ⟨hl, -, heq⟩ | ⟨bs, hl, -, ⟨hfull, heq⟩ | ⟨hfit, heq⟩⟩
  · rw [heq, operations, hl]
    exact hplace
  · rw [heq, operations_eq hl, if_neg (by omega), List.append_nil]
  · rw [heq, operations_eq hl, if_pos hfit, Directory.applyAll, Directory.applyAll, Directory.applyAll,
      List.foldl_append]

/-! ## What is not synced -/

/-- Operations on one name leave no other name unsynced. -/
theorem unsynced_of_on {t : Name} {ops : List Directory.Operation} (h : ∀ op ∈ ops, op.On t) {names : List Name}
    (hnames : ∀ n ∈ names, n = t) : ∀ n ∈ ops.foldl Directory.unsyncedAfter names, n = t := by
  induction ops generalizing names with
  | nil => exact hnames
  | cons op ops ih =>
    obtain ⟨hop, hops⟩ := List.forall_mem_cons.mp h
    refine ih hops fun n hn => ?_
    cases op with
    | create m => exact (List.mem_cons.mp hn).elim (fun heq => heq.trans hop) (hnames n)
    | append m bytes => exact (List.mem_cons.mp hn).elim (fun heq => heq.trans hop) (hnames n)
    | sync m => exact hnames n (List.mem_filter.mp hn).1
    | rename m m' => exact hop.elim
    | remove m => exact hnames n (List.mem_filter.mp hn).1

/-- Removals leave nothing unsynced that was synced. -/
theorem unsynced_removal (bs : List StoredBatch) : Directory.unsynced (removal bs) = [] := by
  induction bs with
  | nil => rfl
  | cons b bs ih => exact ih

theorem unsynced_removal_append (bs : List StoredBatch) (ops : List Directory.Operation) :
    Directory.unsynced (removal bs ++ ops) = Directory.unsynced ops := by
  rw [Directory.unsynced, List.foldl_append, ← Directory.unsynced, unsynced_removal]
  rfl

/-- **A batch is synced before it has its name.** -/
theorem unsynced_store (name : Name) (payload : Bytes) (split : Nat) :
    Directory.unsynced (store name payload split) = [] := by
  simp [Directory.unsynced, store, Directory.unsyncedAfter]

/-! ## The states in between -/

/-- The state itself is among those that a crash may leave. -/
theorem Directory.Ordered.crashState {d : Directory} (h : d.Ordered) (ops : List Directory.Operation) :
    d.CrashState ops (d.applyAll ops) :=
  ⟨h.applyAll ops, fun _ _ => rfl⟩

variable {d d' : Directory} {gone : List StoredBatch} {payload : Bytes}

/-- Until the batch has its name, a listing shows what did not make room. -/
theorem mem_batches_of_on (hd : d.Ordered) (hgone : ∀ b ∈ gone, b ∈ d.batches) {name : Name}
    {ops : List Directory.Operation} (hon : ∀ op ∈ ops, op.On (name ++ temporarySuffix))
    (hcrash : d.CrashState (removal gone ++ ops) d') (b : StoredBatch) :
    b ∈ d'.batches ↔ b ∈ d.batches ∧ b ∉ gone := by
  obtain ⟨hd', hsame⟩ := hcrash
  rw [← mem_batches_removal hd hgone, hd'.mem_batches, (hd.applyAll _).mem_batches]
  refine and_congr_left fun hname => ?_
  have htmp : b.name ≠ name ++ temporarySuffix := by
    intro heq
    rw [heq, isBatchName_temporary] at hname
    exact Bool.false_ne_true hname
  have hsynced : b.name ∉ Directory.unsynced (removal gone ++ ops) := by
    rw [unsynced_removal_append]
    exact mt (unsynced_of_on hon (fun n hn => absurd hn List.not_mem_nil) b.name) htmp
  rw [hsame b.name hsynced, Directory.applyAll, List.foldl_append]
  exact Iff.of_eq (congrArg (· = _) (get?_applyAll_of_on htmp hon _))

/-- Once the batch has its name, a listing shows it beside them, whole. -/
theorem mem_batches_of_store (hd : d.Ordered) (hgone : ∀ b ∈ gone, b ∈ d.batches) {nanos split : Nat}
    (hfresh : d.get? (batchName nanos) = none)
    (hcrash : d.CrashState (removal gone ++ store (batchName nanos) payload split) d') (b : StoredBatch) :
    b ∈ d'.batches ↔ (b ∈ d.batches ∧ b ∉ gone) ∨ b = ⟨batchName nanos, payload⟩ := by
  obtain ⟨hd', hsame⟩ := hcrash
  have hall (n : Name) : d'.get? n =
      ((d.applyAll (removal gone)).applyAll (written { split } (batchName nanos) payload).2).get? n := by
    rw [hsame n (by simp [unsynced_removal_append, unsynced_store]), Directory.applyAll, List.foldl_append]
    rfl
  have hroom : (d.applyAll (removal gone)).get? (batchName nanos) = none := by
    rw [get?_removal, hfresh, ite_self]
  have hfails : ({ split } : Disk).fails = none := rfl
  rw [← mem_batches_removal hd hgone, ← mem_batches_written (hd.applyAll _) hfails hroom payload,
    hd'.mem_batches, ((hd.applyAll _).applyAll _).mem_batches, hall]

/-! ## The whole call -/

/-- The operations are those that make room, and those that write the batch if there is room. -/
theorem operations_cases {s : Spool} (hplace : s.place = .directory d) (now : Nat) (hp : payload ≠ [])
    (disk : Disk) :
    ((∃ e, (s.enqueue now payload disk).1 = .error e) ∧
        s.operations now payload disk = removal (s.evictions payload.length disk)) ∨
      ((s.enqueue now payload disk).1 = (written disk (batchName (s.nextNanos now)) payload).1 ∧
        s.operations now payload disk = removal (s.evictions payload.length disk) ++
          (written disk (batchName (s.nextNanos now)) payload).2) := by
  rcases enqueue_cases hplace now hp disk with ⟨hl, hgone, heq⟩ | ⟨bs, hl, -, ⟨hfull, heq⟩ | ⟨hfit, heq⟩⟩
  · refine Or.inl ⟨⟨_, by rw [heq]⟩, ?_⟩
    rw [operations, hl, hgone]
    rfl
  · refine Or.inl ⟨⟨_, by rw [heq]⟩, ?_⟩
    rw [operations_eq hl, if_neg (by omega), List.append_nil]
  · exact Or.inr ⟨by rw [heq], by rw [operations_eq hl, if_pos hfit]⟩

/-- What is shown of a batch that is stored at the time `now`, and of the batches that were there. -/
structure StoredAtomically (s : Spool) (d : Directory) (now : Nat) (payload : Bytes) (disk : Disk) : Prop where
  /-- After any number of operations, and whatever a crash then leaves, a listing shows the batches that were there
  but those that have made room so far, unchanged; and the new one, whole, once all operations were made and none has
  failed. -/
  instants : ∀ k d', d.CrashState ((s.operations now payload disk).take k) d' → ∀ b, b ∈ d'.batches ↔
    (b ∈ d.batches ∧ b ∉ (s.evictions payload.length disk).take k) ∨
      (b = ⟨batchName (s.nextNanos now), payload⟩ ∧ (s.enqueue now payload disk).1 = .ok () ∧
        (s.operations now payload disk).length ≤ k)
  /-- The call leaves what all operations make of the directory. -/
  made : (s.enqueue now payload disk).2.place = .directory (d.applyAll (s.operations now payload disk))
  /-- When the call has returned, all that were to make room have made it, and the new batch is shown if and only if
  the call has not failed. -/
  returned : ∀ b, b ∈ (s.enqueue now payload disk).2.batches ↔
    (b ∈ d.batches ∧ b ∉ s.evictions payload.length disk) ∨
      (b = ⟨batchName (s.nextNanos now), payload⟩ ∧ (s.enqueue now payload disk).1 = .ok ())
  /-- If the call has failed, the temporary file is not there, unless it cannot be removed. -/
  cleaned : (s.enqueue now payload disk).1 ≠ .ok () →
    disk.removes (batchName (s.nextNanos now) ++ temporarySuffix) = true →
      (d.applyAll (s.operations now payload disk)).get? (batchName (s.nextNanos now) ++ temporarySuffix) = none

section Call

variable {s : Spool} {now : Nat} {disk : Disk}

/-- Writing that goes on or has failed is on the temporary file only. -/
theorem on_of_mem_take_written {name : Name} {k : Nat} (h : disk.fails = none → k < 5) :
    ∀ op ∈ (written disk name payload).2.take k, op.On (name ++ temporarySuffix) := by
  intro op hop
  cases hw : disk.fails with
  | some i => exact on_of_mem_written hw name payload op (List.mem_of_mem_take hop)
  | none =>
    rw [written, hw] at hop
    exact on_of_mem_take_store (Nat.le_of_lt_succ (h hw)) hop

/-- **At every instant and after a crash.** -/
theorem mem_batches_of_crash (hplace : s.place = .directory d) (hd : d.Ordered) (hp : payload ≠ [])
    (hfresh : d.get? (batchName (s.nextNanos now)) = none) {k : Nat}
    (hcrash : d.CrashState ((s.operations now payload disk).take k) d') (b : StoredBatch) :
    b ∈ d'.batches ↔ (b ∈ d.batches ∧ b ∉ (s.evictions payload.length disk).take k) ∨
      (b = ⟨batchName (s.nextNanos now), payload⟩ ∧ (s.enqueue now payload disk).1 = .ok () ∧
        (s.operations now payload disk).length ≤ k) := by
  have hgone : ∀ b ∈ (s.evictions payload.length disk).take k, b ∈ d.batches := fun b hb =>
    batches_of_place hplace ▸ mem_of_mem_evictions (List.mem_of_mem_take hb)
  rcases operations_cases hplace now hp disk with ⟨⟨e, he⟩, hops⟩ | ⟨hresult, hops⟩
  · -- only room was made
    rw [hops, removal, ← List.map_take, ← removal, ← List.append_nil (removal _)] at hcrash
    have hon : ∀ op ∈ ([] : List Directory.Operation), op.On ([] ++ temporarySuffix) := List.forall_mem_nil _
    rw [mem_batches_of_on hd hgone hon hcrash b, he]
    simp
  · have hlength : (s.operations now payload disk).length =
        (s.evictions payload.length disk).length
          + (written disk (batchName (s.nextNanos now)) payload).2.length := by
      rw [hops, List.length_append, removal, List.length_map]
    rw [hops, List.take_append, removal, ← List.map_take, ← removal, List.length_map] at hcrash
    by_cases hdone : disk.fails = none ∧ (s.operations now payload disk).length ≤ k
    · obtain ⟨hfails, hk⟩ := hdone
      have hwritten : written disk (batchName (s.nextNanos now)) payload =
          (.ok (), store (batchName (s.nextNanos now)) payload disk.split) := by rw [written, hfails]
      have hall : (written disk (batchName (s.nextNanos now)) payload).2.take
            (k - (s.evictions payload.length disk).length) =
          store (batchName (s.nextNanos now)) payload disk.split := by
        rw [List.take_of_length_le (by omega), hwritten]
      rw [hall] at hcrash
      rw [mem_batches_of_store hd hgone hfresh hcrash b, hresult, hwritten]
      simp [hk]
    · -- the batch does not have its name yet, or never will
      have hshort : disk.fails = none → k - (s.evictions payload.length disk).length < 5 := by
        intro hfails
        have hfive : (written disk (batchName (s.nextNanos now)) payload).2.length = 5 := by
          rw [written, hfails]
          rfl
        have hk := mt (And.intro hfails) hdone
        omega
      have hopen : ¬((s.enqueue now payload disk).1 = .ok () ∧ (s.operations now payload disk).length ≤ k) := by
        rintro ⟨hok, hk⟩
        refine hdone ⟨?_, hk⟩
        rw [hresult, written] at hok
        cases hfails : disk.fails with
        | none => rfl
        | some i =>
          rw [hfails] at hok
          exact absurd hok (by simp)
      rw [mem_batches_of_on hd hgone (on_of_mem_take_written hshort) hcrash b]
      exact ⟨Or.inl, fun h => h.resolve_right fun hnew => hopen hnew.2⟩

/-- No more batches make room than operations are made. -/
theorem length_evictions_le (hplace : s.place = .directory d) (hp : payload ≠ []) :
    (s.evictions payload.length disk).length ≤ (s.operations now payload disk).length := by
  rcases operations_cases hplace now hp disk with ⟨-, hops⟩ | ⟨-, hops⟩
  · exact Nat.le_of_eq (by rw [hops, removal, List.length_map])
  · rw [hops, List.length_append, removal, List.length_map]
    exact Nat.le_add_right _ _

/-- **When the call has returned.** -/
theorem mem_batches_enqueue (hplace : s.place = .directory d) (hd : d.Ordered) (hp : payload ≠ [])
    (hfresh : d.get? (batchName (s.nextNanos now)) = none) (b : StoredBatch) :
    b ∈ (s.enqueue now payload disk).2.batches ↔
      (b ∈ d.batches ∧ b ∉ s.evictions payload.length disk) ∨
        (b = ⟨batchName (s.nextNanos now), payload⟩ ∧ (s.enqueue now payload disk).1 = .ok ()) := by
  -- the last of the instants
  have hall := hd.crashState ((s.operations now payload disk).take (s.operations now payload disk).length)
  have hlast := mem_batches_of_crash hplace hd hp hfresh hall b
  rw [List.take_length, List.take_of_length_le (length_evictions_le hplace hp)] at hlast
  rw [batches_of_place (place_enqueue hplace now hp disk), hlast]
  simp only [Nat.le_refl, and_true]

/-- What a call that fails leaves of its temporary file. -/
theorem get?_temporary (hplace : s.place = .directory d) (hp : payload ≠ [])
    (htmp : d.get? (batchName (s.nextNanos now) ++ temporarySuffix) = none)
    (hfailed : (s.enqueue now payload disk).1 ≠ .ok ())
    (hremoves : disk.removes (batchName (s.nextNanos now) ++ temporarySuffix) = true) :
    (d.applyAll (s.operations now payload disk)).get? (batchName (s.nextNanos now) ++ temporarySuffix) = none := by
  rcases operations_cases hplace now hp disk with ⟨-, hops⟩ | ⟨hresult, hops⟩
  · rw [hops, get?_removal, htmp, ite_self]
  · rw [hresult] at hfailed
    rw [hops]
    cases hw : disk.fails with
    | none => exact absurd (by rw [written, hw]) hfailed
    | some i =>
      rw [written, hw]
      dsimp only
      rw [if_pos hremoves, ← List.append_assoc, Directory.applyAll, List.foldl_append]
      exact (Directory.get?_erase _ _ _).trans (if_pos rfl)

/-- **Storing a batch is atomic**, if nothing stands under the name that it is given and under its temporary name.
An empty batch is stored without a call of the file system, and is never shown. -/
theorem enqueue_atomic (hplace : s.place = .directory d) (hd : d.Ordered)
    (hname : d.get? (batchName (s.nextNanos now)) = none)
    (htmp : d.get? (batchName (s.nextNanos now) ++ temporarySuffix) = none) :
    (payload = [] ∧ s.enqueue now payload disk = (.ok (), s)) ∨
      (payload ≠ [] ∧ StoredAtomically s d now payload disk) := by
  by_cases hp : payload = []
  · subst hp
    exact Or.inl ⟨rfl, rfl⟩
  · exact Or.inr ⟨hp, {
      instants := fun _ _ hcrash => mem_batches_of_crash hplace hd hp hname hcrash
      made := place_enqueue hplace now hp disk
      returned := mem_batches_enqueue hplace hd hp hname
      cleaned := get?_temporary hplace hp htmp }⟩

end Call

/-- The oldest of two batches makes room, beside a file of another kind, and the disk fails before the renaming. -/
theorem enqueue_atomic_failed_rename :
    let d : Directory := ⟨[(batchName 1, .file [1, 2, 3]), (batchName 2, .file [4]),
      (Name.ofString "notes.txt", .file [9])]⟩
    let s : Spool := { place := .directory d, maxBytes := 4, lastNanos := 2 }
    let disk : Disk := { fails := some 4, split := 1 }
    StoredAtomically s d 5 [7, 8] disk :=
  have h := enqueue_atomic rfl (by decide +kernel) (by decide +kernel) (by decide +kernel)
  (h.resolve_left fun hnil => List.cons_ne_nil _ _ hnil.1).2

/-- An empty batch is stored with success, and no batch is shown. -/
theorem not_mem_batches_enqueue_nil :
    let s : Spool := { place := .directory {}, maxBytes := 1024 }
    (s.enqueue 5 []).1 = .ok () ∧ ⟨batchName (s.nextNanos 5), []⟩ ∉ (s.enqueue 5 []).2.batches :=
  ⟨rfl, List.not_mem_nil⟩

end RouterTelemetry.Spool
