import RouterTelemetry.Proofs.Ring.Window
/-!
# Rings and their copies

A ring that is pushed to and copied, and copies that are pushed to and copied in turn. Places are checked here: a push
that would write beyond the last one fails, and so does a list of the values that would be cut there. Main statements:

* `push?_eq` and `toList?_eq` : neither fails as long as the places are written in turn;
* `Shows.push` : what a ring shows after one more push;
* `Traced.AllShow.act` and `Traced.AllShow.act?_eq` : one act keeps this for all copies, and does not fail;
* `copies_are_windows` : after any acts, each copy is a window of what was pushed to it.
-/

namespace RouterTelemetry.Ring

variable {α : Type}

/-! ## Checked places -/

/-- A push, if the place that is to be written is there. -/
def push? (r : Ring α) (v : α) : Option (Ring α) :=
  if r.capacity = 0 then some r
  else if r.slots.size < r.capacity then some ⟨r.slots.push v, r.capacity, (r.head + 1) % r.capacity⟩
  else if h : r.head < r.slots.size then some ⟨r.slots.set r.head v h, r.capacity, (r.head + 1) % r.capacity⟩
  else none

/-- The values, oldest first, if the place where they are cut is there. -/
def toList? (r : Ring α) : Option (List α) :=
  if r.slots.size < r.capacity then some r.slots.toList
  else if r.head ≤ r.slots.size then some (r.slots.toList.drop r.head ++ r.slots.toList.take r.head)
  else none

/-- A push writes to a place that is there. -/
theorem push?_eq {r : Ring α} (h : r.InTurn) (v : α) : r.push? v = some (r.push v) := by
  unfold push?
  by_cases hzero : r.capacity = 0
  · rw [if_pos hzero, push, if_pos hzero]
  rw [if_neg hzero]
  by_cases hroom : r.slots.size < r.capacity
  · rw [if_pos hroom, push_of_lt hroom]
  · have hsize := h.size_le
    have hfull : r.slots.size = r.capacity := by omega
    have hhead : r.head < r.slots.size := by
      rw [hfull]
      exact h.head_lt (by omega)
    rw [if_neg hroom, dif_pos hhead, push_of_full (by omega) hfull, Array.setIfInBounds, dif_pos hhead]

/-- Values are cut at a place that is there, or behind the last one. -/
theorem toList?_eq {r : Ring α} (h : r.InTurn) (hhead : r.capacity = 0 → r.head = 0) : r.toList? = some r.toList := by
  unfold toList?
  by_cases hroom : r.slots.size < r.capacity
  · rw [if_pos hroom, toList_of_lt hroom]
  · have hsize := h.size_le
    have hlt := h.head_lt
    have hcut : r.head ≤ r.slots.size := by omega
    rw [if_neg hroom, if_pos hcut, toList_of_full (by omega)]

/-! ## What a ring shows -/

/-- A ring of a capacity that shows the last of some values. -/
structure Shows (capacity : Nat) (r : Ring α) (vs : List α) : Prop where
  inTurn : r.InTurn
  capacity_eq : r.capacity = capacity
  head_eq : r.capacity = 0 → r.head = 0
  toList_eq : r.toList = vs.rtake capacity

theorem shows_empty (capacity : Nat) : Shows capacity (empty capacity : Ring α) [] where
  inTurn := inTurn_empty capacity
  capacity_eq := rfl
  head_eq := fun _ => rfl
  toList_eq := by
    exact toList_pushAll capacity []

/-- **One push.** The ring shows the last of the values with one more. -/
theorem Shows.push {capacity : Nat} {r : Ring α} {vs : List α} (h : Shows capacity r vs) (v : α) :
    Shows capacity (r.push v) (vs ++ [v]) := by
  constructor
  · exact h.inTurn.push v
  · rw [capacity_push, h.capacity_eq]
  · intro hzero
    rw [capacity_push] at hzero
    rw [Ring.push, if_pos hzero]
    exact h.head_eq hzero
  · rw [toList_push h.inTurn, h.capacity_eq, h.toList_eq, rtake_append_singleton]

/-- The number of values that are shown. -/
theorem Shows.size_eq {capacity : Nat} {r : Ring α} {vs : List α} (h : Shows capacity r vs) :
    r.size = min capacity vs.length := by
  have hlength := length_toList h.inTurn
  rw [h.toList_eq, List.rtake, List.length_drop] at hlength
  rw [size, ← hlength]
  omega

/-! ## Copies -/

/-- A ring with all that was pushed to it, and to the ring that it was copied from until it was. -/
structure Traced (α : Type) where
  ring : Ring α
  pushed : List α

/-- What can be done: to push a value to one of the rings, or to copy it. -/
inductive Act (α : Type) where
  | push (i : Nat) (v : α)
  | copy (i : Nat)

namespace Traced

/-- The rings after an act. A new copy comes behind the others. -/
def act (ts : List (Traced α)) : Act α → List (Traced α)
  | .push i v =>
    match ts[i]? with
    | some t => ts.set i ⟨t.ring.push v, t.pushed ++ [v]⟩
    | none => ts
  | .copy i => ts ++ ts[i]?.toList

/-- The same with checked places. -/
def act? (ts : List (Traced α)) : Act α → Option (List (Traced α))
  | .push i v =>
    match ts[i]? with
    | some t => (t.ring.push? v).map fun r => ts.set i ⟨r, t.pushed ++ [v]⟩
    | none => some ts
  | .copy i => some (ts ++ ts[i]?.toList)

/-- A new ring. -/
def start (capacity : Nat) : List (Traced α) :=
  [⟨empty capacity, []⟩]

/-- A new ring and its copies after some acts. -/
def run (capacity : Nat) (acts : List (Act α)) : List (Traced α) :=
  acts.foldl act (start capacity)

/-- The same with checked places. -/
def run? (capacity : Nat) (acts : List (Act α)) : Option (List (Traced α)) :=
  acts.foldlM act? (start capacity)

/-- Whether all rings show what was pushed to them. -/
def AllShow (capacity : Nat) (ts : List (Traced α)) : Prop :=
  ∀ t ∈ ts, Shows capacity t.ring t.pushed

theorem allShow_start (capacity : Nat) : AllShow capacity (start capacity : List (Traced α)) := by
  intro t ht
  rw [List.mem_singleton.mp ht]
  exact shows_empty capacity

/-- **One act.** All rings still show what was pushed to them. -/
theorem AllShow.act {capacity : Nat} {ts : List (Traced α)} (h : AllShow capacity ts) (a : Act α) :
    AllShow capacity (act ts a) := by
  cases a with
  | push i v =>
    rw [Traced.act]
    cases hi : ts[i]? with
    | none => exact h
    | some t =>
      intro u hu
      rcases List.mem_or_eq_of_mem_set hu with hu | rfl
      · exact h u hu
      · exact (h t (List.mem_of_getElem? hi)).push v
  | copy i =>
    intro u hu
    rcases List.mem_append.mp hu with hu | hu
    · exact h u hu
    · exact h u (List.mem_of_getElem? (Option.mem_toList.mp hu))

/-- Nor does the act fail. -/
theorem AllShow.act?_eq {capacity : Nat} {ts : List (Traced α)} (h : AllShow capacity ts) (a : Act α) :
    act? ts a = some (Traced.act ts a) := by
  cases a with
  | push i v =>
    rw [act?, Traced.act]
    cases hi : ts[i]? with
    | none => rfl
    | some t =>
      show (t.ring.push? v).map _ = _
      rw [push?_eq (h t (List.mem_of_getElem? hi)).inTurn]
      rfl
  | copy i => rfl

/-- Acts one after the other. -/
theorem AllShow.acts {capacity : Nat} (as : List (Act α)) {ts : List (Traced α)} (h : AllShow capacity ts) :
    AllShow capacity (as.foldl Traced.act ts) ∧ as.foldlM act? ts = some (as.foldl Traced.act ts) := by
  induction as generalizing ts with
  | nil => exact ⟨h, rfl⟩
  | cons a as ih =>
    obtain ⟨hall, hchecked⟩ := ih (h.act a)
    refine ⟨hall, ?_⟩
    rw [List.foldlM_cons, h.act?_eq]
    exact hchecked

end Traced

/-- **Copies are windows.** Whatever is pushed to a new ring and to its copies, and whenever they are copied, no place
is written or read that is not there, and each of them holds the last of the values that were pushed to it, oldest
first, as many as there is room for. -/
theorem copies_are_windows (capacity : Nat) (acts : List (Act α)) :
    Traced.run? capacity acts = some (Traced.run capacity acts) ∧
      ∀ t ∈ Traced.run capacity acts,
        t.ring.toList? = some t.ring.toList ∧
          t.ring.toList = t.pushed.drop (t.pushed.length - capacity) ∧
          t.ring.size = min capacity t.pushed.length := by
  obtain ⟨hall, hchecked⟩ := (Traced.allShow_start capacity).acts acts
  refine ⟨hchecked, fun t ht => ?_⟩
  have hshows := hall t ht
  exact ⟨toList?_eq hshows.inTurn hshows.head_eq, hshows.toList_eq, hshows.size_eq⟩

/-- A ring for two values that is copied when it is full. -/
example : (Traced.run 2 [.push 0 'a', .push 0 'b', .copy 0, .push 0 'c', .push 1 'd', .push 1 'e']).map
    (fun t => t.ring.toList) = [['b', 'c'], ['d', 'e']] := by
  decide

end RouterTelemetry.Ring
