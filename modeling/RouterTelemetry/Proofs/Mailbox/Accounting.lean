import Mathlib.Data.List.Induction
import RouterTelemetry.Mailbox
/-!
# Mailboxes account for every item

What becomes of the items that are sent to a mailbox through any of its handles, while its receiver takes
them, closes the mailbox or goes away, in any order. Main statements:

* `send_of_hasRoom`, `send_of_not_hasRoom` and `sendAll_spec` : what sending items does;
* `Balanced.step` : what one operation preserves;
* `Shared.labels_steps` : which streams the handles carry that were made;
* `accounted_for` : where the items of a whole run are, and what was counted.
-/

namespace RouterTelemetry.Mailbox

variable {α : Type}

/-! ## Sending -/

theorem send_of_hasRoom {m : Mailbox α} (h : m.hasRoom = true) (stream : Stream) (stats : Stats)
    (a : α) : m.send stream stats a = (true, { m with queue := m.queue ++ [a] }, stats) := by
  rw [send, if_pos h, put, if_pos h]

theorem send_of_not_hasRoom {m : Mailbox α} (h : m.hasRoom = false) (stream : Stream)
    (stats : Stats) (a : α) : m.send stream stats a = (false, m, stats.recordDrop stream) := by
  rw [send, if_neg (by rw [h]; exact Bool.false_ne_true)]

theorem hasRoom_iff (m : Mailbox α) :
    m.hasRoom = true ↔ m.isOpen = true ∧ m.queue.length < m.capacity := by
  rw [hasRoom, Bool.and_eq_true, decide_eq_true_iff, depth]

/-- A drop counts under its stream, and nowhere else. -/
theorem dropped_recordDrop (stats : Stats) (stream other : Stream) :
    (stats.recordDrop stream).dropped.get other =
      stats.dropped.get other + [stream].count other := by
  rw [Stats.recordDrop, Tally.get_incr, List.count_singleton]
  by_cases h : other = stream
  · subst h
    simp
  · rw [if_neg h, if_neg (by simpa using Ne.symm h), Nat.add_zero]

/-- Of items that are sent one after the other some are kept, in their order, and the others are counted. -/
theorem sendAll_spec (m : Mailbox α) (stream : Stream) (stats : Stats) (items : List α) :
    ∃ kept, kept.Sublist items ∧ (m.sendAll stream stats items).2.1.queue = m.queue ++ kept ∧
      (m.sendAll stream stats items).2.2.dropped.get stream + kept.length =
        stats.dropped.get stream + items.length := by
  induction items generalizing m stats with
  | nil => exact ⟨[], List.Sublist.refl [], (List.append_nil _).symm, rfl⟩
  | cons a items ih =>
    cases hroom : m.hasRoom with
    | true =>
      obtain ⟨kept, hsub, hqueue, hcount⟩ := ih { m with queue := m.queue ++ [a] } stats
      rw [sendAll, send_of_hasRoom hroom]
      refine ⟨a :: kept, hsub.cons_cons a, ?_, ?_⟩
      · rw [hqueue, List.append_assoc]
        rfl
      · rw [List.length_cons, List.length_cons, ← Nat.add_assoc, hcount, Nat.add_assoc]
    | false =>
      obtain ⟨kept, hsub, hqueue, hcount⟩ := ih m (stats.recordDrop stream)
      rw [sendAll, send_of_not_hasRoom hroom]
      refine ⟨kept, hsub.cons a, hqueue, ?_⟩
      rw [hcount, dropped_recordDrop, List.count_singleton_self, List.length_cons]
      omega

/-! ## Operations -/

/-- A mailbox with its handles and its counters, and what has become of its items so far. -/
structure Shared (α : Type) where
  box : Mailbox α
  handles : List Handle
  stats : Stats
  /-- The places that are not taken. -/
  free : Nat
  hasReceiver : Bool := true
  accepted : List α := []
  received : List α := []
  /-- The items that still waited when the receiver went away. -/
  discarded : List α := []
  /-- For each item that was not accepted, the stream of the handle through which it was sent. -/
  refused : List Stream := []

/-- What can be done with a mailbox. Its handles are numbered in the order in which they were made. -/
inductive Operation (α : Type) where
  | send (handle : Nat) (a : α)
  | receive
  | clone (handle : Nat)
  | relabel (handle : Nat) (stream : Stream)
  | close
  | dropReceiver

namespace Shared

/-- A new mailbox with one handle. -/
def start (capacity : Nat) (stream : Stream) (stats : Stats) : Shared α :=
  { box := .empty capacity, handles := [⟨stream⟩], stats, free := max capacity 1 }

/-- The number of items that wait, as each handle reports it: the places that are taken. -/
def depth (s : Shared α) : Nat :=
  s.box.capacity - s.free

/-- An item is sent through a handle. -/
def send (s : Shared α) (h : Handle) (a : α) : Shared α :=
  let (ok, box, stats) := h.send s.box s.stats a
  if ok then { s with box, stats, free := s.free - 1, accepted := s.accepted ++ [a] }
  else { s with box, stats, refused := s.refused ++ [h.stream] }

/-- The receiver takes the oldest item, if one waits. -/
def receive (s : Shared α) : Shared α :=
  match s.box.take? with
  | some (a, box) => { s with box, free := s.free + 1, received := s.received ++ [a] }
  | none => s

/-- The receiver goes away. -/
def dropReceiver (s : Shared α) : Shared α :=
  { s with
    box := s.box.discard
    free := s.free + s.box.queue.length
    hasReceiver := false
    discarded := s.box.queue }

/-- The mailbox after an operation. There is nothing to do for a handle that was not made, or for a receiver
that has gone away. -/
def step (s : Shared α) : Operation α → Shared α
  | .send i a =>
    match s.handles[i]? with
    | some h => s.send h a
    | none => s
  | .receive => if s.hasReceiver then s.receive else s
  | .clone i => { s with handles := s.handles ++ (s.handles[i]?.map Handle.clone).toList }
  | .relabel i stream =>
    { s with handles := s.handles ++ (s.handles[i]?.map fun h => h.relabel stream).toList }
  | .close => { s with box := s.box.close }
  | .dropReceiver => if s.hasReceiver then s.dropReceiver else s

/-- The mailbox after some operations. -/
def steps (s : Shared α) (ops : List (Operation α)) : Shared α :=
  ops.foldl step s

theorem steps_concat (s : Shared α) (ops : List (Operation α)) (op : Operation α) :
    s.steps (ops ++ [op]) = (s.steps ops).step op := by
  rw [steps, List.foldl_append]
  rfl

theorem send_of_hasRoom {s : Shared α} (hroom : s.box.hasRoom = true) (h : Handle) (a : α) :
    s.send h a =
      { s with
        box := { s.box with queue := s.box.queue ++ [a] }
        free := s.free - 1
        accepted := s.accepted ++ [a] } := by
  rw [send, Handle.send, Mailbox.send_of_hasRoom hroom]
  rfl

theorem send_of_not_hasRoom {s : Shared α} (hroom : s.box.hasRoom = false) (h : Handle) (a : α) :
    s.send h a =
      { s with stats := s.stats.recordDrop h.stream, refused := s.refused ++ [h.stream] } := by
  rw [send, Handle.send, Mailbox.send_of_not_hasRoom hroom]
  rfl

/-- The receiver finds nothing, or it takes the oldest item. -/
theorem receive_cases (s : Shared α) :
    (s.box.queue = [] ∧ s.receive = s) ∨
      ∃ a rest, s.box.queue = a :: rest ∧
        s.receive =
          { s with
            box := { s.box with queue := rest }
            free := s.free + 1
            received := s.received ++ [a] } := by
  unfold receive take?
  cases hqueue : s.box.queue with
  | nil => exact Or.inl ⟨rfl, rfl⟩
  | cons a rest => exact Or.inr ⟨a, rest, rfl, rfl⟩

end Shared

/-! ## Labels of handles -/

/-- The streams that handles carry, in the order in which the handles were made, after one more operation: a clone
carries the stream of its origin, and what is relabelled the new one. -/
def labelsAfter (labels : List Stream) : Operation α → List Stream
  | .clone i => labels ++ labels[i]?.toList
  | .relabel i stream => if i < labels.length then labels ++ [stream] else labels
  | _ => labels

namespace Shared

/-- The streams that the handles carry. -/
def labels (s : Shared α) : List Stream :=
  s.handles.map Handle.stream

theorem labels_send (s : Shared α) (h : Handle) (a : α) : (s.send h a).labels = s.labels := by
  cases hroom : s.box.hasRoom with
  | true => rw [send_of_hasRoom hroom]; rfl
  | false => rw [send_of_not_hasRoom hroom]; rfl

theorem labels_receive (s : Shared α) : s.receive.labels = s.labels := by
  rcases s.receive_cases with ⟨-, hsame⟩ | ⟨a, rest, -, htaken⟩
  · rw [hsame]
  · rw [htaken]
    rfl

/-- **What one operation does to the streams of handles.** -/
theorem labels_step (s : Shared α) (op : Operation α) : (s.step op).labels = labelsAfter s.labels op := by
  cases op with
  | send i a =>
    rw [step]
    split
    · exact s.labels_send _ a
    · rfl
  | receive =>
    rw [step]
    split
    · exact s.labels_receive
    · rfl
  | clone i =>
    rw [step, labels, labelsAfter, labels, List.map_append, List.getElem?_map]
    cases s.handles[i]? <;> rfl
  | relabel i stream =>
    rw [step, labels, labelsAfter, labels, List.map_append, List.length_map]
    split
    · next hi =>
      rw [List.getElem?_eq_getElem hi]
      rfl
    · next hi =>
      rw [List.getElem?_eq_none (Nat.not_lt.mp hi)]
      exact List.append_nil _
  | close => rfl
  | dropReceiver =>
    rw [step]
    split <;> rfl

/-- What operations do to them. -/
theorem labels_steps (s : Shared α) (ops : List (Operation α)) :
    (s.steps ops).labels = ops.foldl labelsAfter s.labels := by
  induction ops generalizing s with
  | nil => rfl
  | cons op ops ih =>
    rw [List.foldl_cons, ← labels_step]
    exact ih (s.step op)

end Shared

/-! ## What is preserved -/

/-- Where the items are after some operations, and what was counted. -/
structure Balanced (capacity : Nat) (stats : Stats) (ops : List (Operation α)) (s : Shared α) :
    Prop where
  capacity_eq : s.box.capacity = max capacity 1
  /-- The items that were accepted, in their order: those that were received, those that were discarded, and
  those that wait. -/
  inOrder : s.accepted = s.received ++ (s.discarded ++ s.box.queue)
  /-- Each place is free or holds an item. -/
  places : s.free + s.box.queue.length = max capacity 1
  hasReceiver_iff : s.hasReceiver = true ↔ .dropReceiver ∉ ops
  /-- Only a receiver that goes away discards items. -/
  kept : .dropReceiver ∉ ops → s.discarded = []
  /-- A receiver that goes away leaves no item. -/
  left : .dropReceiver ∈ ops → s.box.queue = []
  isOpen_iff : s.box.isOpen = true ↔ .close ∉ ops ∧ .dropReceiver ∉ ops
  /-- Each item that was not accepted is counted under the stream of its handle. -/
  dropped : ∀ stream,
    s.stats.dropped.get stream = stats.dropped.get stream + s.refused.count stream
  /-- Nothing else is counted. -/
  others : s.stats.counters = stats.counters ∧ s.stats.sendErrors = stats.sendErrors ∧
    s.stats.depths = stats.depths

namespace Balanced

variable {capacity : Nat} {stats : Stats} {ops : List (Operation α)} {s : Shared α}

theorem start (capacity : Nat) (stream : Stream) (stats : Stats) :
    Balanced capacity stats [] (Shared.start (α := α) capacity stream stats) where
  capacity_eq := rfl
  inOrder := rfl
  places := rfl
  hasReceiver_iff := ⟨fun _ => List.not_mem_nil, fun _ => rfl⟩
  kept := fun _ => rfl
  left := fun h => absurd h List.not_mem_nil
  isOpen_iff := ⟨fun _ => ⟨List.not_mem_nil, List.not_mem_nil⟩, fun _ => rfl⟩
  dropped := fun _ => rfl
  others := ⟨rfl, rfl, rfl⟩

/-- The number of items that wait is what the handles report. -/
theorem depth_eq (h : Balanced capacity stats ops s) : s.depth = s.box.queue.length := by
  have hplaces := h.places
  rw [Shared.depth, h.capacity_eq]
  omega

/-- An item is accepted while the receiver is there and has not closed the mailbox, if there is room. -/
theorem hasRoom_iff (h : Balanced capacity stats ops s) :
    s.box.hasRoom = true ↔
      (.close ∉ ops ∧ .dropReceiver ∉ ops) ∧ s.box.queue.length < max capacity 1 := by
  rw [Mailbox.hasRoom_iff, h.isOpen_iff, h.capacity_eq]

/-- Of the operations only those of the receiver that end its part matter. -/
theorem concat {op : Operation α} (h : Balanced capacity stats ops s) (hclose : op ≠ .close)
    (hdrop : op ≠ .dropReceiver) : Balanced capacity stats (ops ++ [op]) s := by
  have hclosed : .close ∈ ops ++ [op] ↔ .close ∈ ops := by simp [Ne.symm hclose]
  have hdropped : .dropReceiver ∈ ops ++ [op] ↔ .dropReceiver ∈ ops := by simp [Ne.symm hdrop]
  refine { h with hasReceiver_iff := ?_, kept := ?_, left := ?_, isOpen_iff := ?_ }
  · rw [hdropped]
    exact h.hasReceiver_iff
  · rw [hdropped]
    exact h.kept
  · rw [hdropped]
    exact h.left
  · rw [hclosed, hdropped]
    exact h.isOpen_iff

theorem send (h : Balanced capacity stats ops s) (handle : Handle) (a : α) :
    Balanced capacity stats ops (s.send handle a) := by
  cases hroom : s.box.hasRoom with
  | true =>
    obtain ⟨⟨-, hdrop⟩, hlength⟩ := h.hasRoom_iff.mp hroom
    rw [Shared.send_of_hasRoom hroom]
    refine { h with inOrder := ?_, places := ?_, left := fun hin => absurd hin hdrop }
    · show s.accepted ++ [a] = s.received ++ (s.discarded ++ (s.box.queue ++ [a]))
      rw [h.inOrder, List.append_assoc, List.append_assoc]
    · -- there was a free place, which is taken now
      have hplaces := h.places
      show s.free - 1 + (s.box.queue ++ [a]).length = max capacity 1
      rw [List.length_append, List.length_singleton]
      omega
  | false =>
    rw [Shared.send_of_not_hasRoom hroom]
    refine { h with dropped := fun stream => ?_, others := h.others }
    show (s.stats.recordDrop handle.stream).dropped.get stream =
      stats.dropped.get stream + (s.refused ++ [handle.stream]).count stream
    rw [dropped_recordDrop, h.dropped, List.count_append, Nat.add_assoc]

theorem receive (h : Balanced capacity stats ops s) (hreceiver : s.hasReceiver = true) :
    Balanced capacity stats ops s.receive := by
  have hdrop : .dropReceiver ∉ ops := h.hasReceiver_iff.mp hreceiver
  rcases s.receive_cases with ⟨-, hsame⟩ | ⟨a, rest, hqueue, htaken⟩
  · rw [hsame]
    exact h
  · rw [htaken]
    refine { h with inOrder := ?_, places := ?_, left := fun hin => absurd hin hdrop }
    · show s.accepted = s.received ++ [a] ++ (s.discarded ++ rest)
      rw [h.inOrder, h.kept hdrop, hqueue, List.append_assoc]
      rfl
    · have hplaces := h.places
      rw [hqueue, List.length_cons] at hplaces
      show s.free + 1 + rest.length = max capacity 1
      omega

theorem close (h : Balanced capacity stats ops s) :
    Balanced capacity stats (ops ++ [.close]) (s.step .close) := by
  have hdropped : .dropReceiver ∈ ops ++ [.close] ↔ .dropReceiver ∈ ops := by simp
  refine { h with hasReceiver_iff := ?_, kept := ?_, left := ?_, isOpen_iff := ?_ }
  · rw [hdropped]
    exact h.hasReceiver_iff
  · rw [hdropped]
    exact h.kept
  · rw [hdropped]
    exact h.left
  · exact ⟨fun hopen => absurd hopen Bool.false_ne_true, fun hnone => absurd (by simp) hnone.1⟩

theorem dropReceiver (h : Balanced capacity stats ops s) :
    Balanced capacity stats (ops ++ [.dropReceiver]) (s.step .dropReceiver) := by
  have hin : .dropReceiver ∈ ops ++ [.dropReceiver] := List.mem_append_right _ (List.mem_singleton_self _)
  have hopen : .close ∈ ops ++ [.dropReceiver] ↔ .close ∈ ops := by simp
  rw [Shared.step]
  cases hreceiver : s.hasReceiver with
  | true =>
    rw [if_pos rfl]
    refine { h with
      inOrder := ?_
      places := h.places
      hasReceiver_iff := ⟨fun hthere => absurd hthere Bool.false_ne_true, fun hnone => absurd hin hnone⟩
      kept := fun hnone => absurd hin hnone
      left := fun _ => rfl
      isOpen_iff := ⟨fun hopen => absurd hopen Bool.false_ne_true, fun hnone => absurd hin hnone.2⟩ }
    -- what waited is discarded
    have hkept := h.kept (h.hasReceiver_iff.mp hreceiver)
    show s.accepted = s.received ++ (s.box.queue ++ [])
    rw [h.inOrder, hkept, List.nil_append, List.append_nil]
  | false =>
    -- the receiver had gone away before
    have hgone : .dropReceiver ∈ ops := by
      by_contra hnone
      exact absurd (h.hasReceiver_iff.mpr hnone) (by rw [hreceiver]; exact Bool.false_ne_true)
    rw [if_neg Bool.false_ne_true]
    refine { h with
      hasReceiver_iff := ?_
      kept := fun hnone => absurd hin hnone
      left := fun _ => h.left hgone
      isOpen_iff := ?_ }
    · exact ⟨fun hthere => absurd hgone (h.hasReceiver_iff.mp hthere), fun hnone => absurd hin hnone⟩
    · exact ⟨fun hopen => absurd hgone (h.isOpen_iff.mp hopen).2, fun hnone => absurd hin hnone.2⟩

/-- **What one operation preserves.** -/
theorem step (h : Balanced capacity stats ops s) (op : Operation α) :
    Balanced capacity stats (ops ++ [op]) (s.step op) := by
  cases op with
  | send i a =>
    refine Balanced.concat ?_ (by simp) (by simp)
    rw [Shared.step]
    split
    · exact h.send _ a
    · exact h
  | receive =>
    refine Balanced.concat ?_ (by simp) (by simp)
    rw [Shared.step]
    split
    · next hreceiver => exact h.receive hreceiver
    · exact h
  | clone i => exact Balanced.concat { h with } (by simp) (by simp)
  | relabel i stream => exact Balanced.concat { h with } (by simp) (by simp)
  | close => exact h.close
  | dropReceiver => exact h.dropReceiver

/-- What a whole run preserves. -/
theorem steps (h : Balanced capacity stats [] s) (ops : List (Operation α)) :
    Balanced capacity stats ops (s.steps ops) := by
  induction ops using List.reverseRecOn with
  | nil => exact h
  | append_singleton ops op ih =>
    rw [Shared.steps_concat]
    exact ih.step op

end Balanced

/-! ## Whole runs -/

/-- What a mailbox says about its items after some operations. -/
structure AccountsFor (capacity : Nat) (stream : Stream) (stats : Stats) (ops : List (Operation α)) (s : Shared α) :
    Prop extends Balanced capacity stats ops s where
  /-- The streams of the handles, of which the first one is given: an item that is not accepted counts under the one
  that its handle carries. -/
  labels : s.labels = ops.foldl labelsAfter [stream]
  /-- The number that each handle reports is the number of items that wait. -/
  depth : s.depth = s.box.queue.length
  depth_le : s.depth ≤ max capacity 1
  /-- An item that is sent now is accepted if the receiver still takes items and there is room. -/
  accepts : ∀ (h : Handle) (a : α), (h.send s.box s.stats a).1 = true ↔
    (.close ∉ ops ∧ .dropReceiver ∉ ops) ∧ s.box.queue.length < max capacity 1

/-- **A mailbox accounts for every item**, through however many handles items are sent, and whatever its
receiver does. -/
theorem accounted_for (capacity : Nat) (stream : Stream) (stats : Stats)
    (ops : List (Operation α)) :
    AccountsFor capacity stream stats ops ((Shared.start capacity stream stats).steps ops) := by
  have hbalanced := (Balanced.start (α := α) capacity stream stats).steps ops
  have hplaces := hbalanced.places
  refine { hbalanced with
    labels := Shared.labels_steps _ ops
    depth := hbalanced.depth_eq
    depth_le := ?_
    accepts := fun h a => ?_ }
  · rw [hbalanced.depth_eq]
    omega
  · rw [← hbalanced.hasRoom_iff, Handle.send, Mailbox.send]
    split <;> simp_all

end RouterTelemetry.Mailbox
