import Mathlib.Data.List.DropRight
import RouterTelemetry.Ring
/-!
# Rings are windows

What a ring holds after some pushes is the end of what was pushed. The places of the array are written in turn, so
that the oldest value of a full ring stands where the next one goes. Main statements:

* `InTurn.push` : what one push preserves;
* `toList_push` : one more value at the end, and the oldest one gone if there was no room;
* `toList_pushAll` : the last values of all that were pushed.
-/

namespace RouterTelemetry.Ring

variable {α : Type}

/-- The places of a ring are written in turn: the next one is behind the values while there is room, and one of
theirs when there is none. -/
structure InTurn (r : Ring α) : Prop where
  size_le : r.slots.size ≤ r.capacity
  head_eq : r.slots.size < r.capacity → r.head = r.slots.size
  head_lt : 0 < r.capacity → r.head < r.capacity

theorem inTurn_empty (capacity : Nat) : InTurn (empty capacity : Ring α) where
  size_le := Nat.zero_le _
  head_eq := fun _ => rfl
  head_lt := id

theorem capacity_push (r : Ring α) (v : α) : (r.push v).capacity = r.capacity := by
  unfold push
  split <;> rfl

/-- A push while there is room. -/
theorem push_of_lt {r : Ring α} (h : r.slots.size < r.capacity) (v : α) :
    r.push v = ⟨r.slots.push v, r.capacity, (r.head + 1) % r.capacity⟩ := by
  rw [push, if_neg (by omega), if_pos h]

/-- A push when there is none. -/
theorem push_of_full {r : Ring α} (hpos : 0 < r.capacity) (h : r.slots.size = r.capacity) (v : α) :
    r.push v = ⟨r.slots.setIfInBounds r.head v, r.capacity, (r.head + 1) % r.capacity⟩ := by
  rw [push, if_neg (by omega), if_neg (by omega)]

/-- **A push keeps the turn.** -/
theorem InTurn.push {r : Ring α} (h : r.InTurn) (v : α) : (r.push v).InTurn := by
  obtain ⟨hsize, heq, hlt⟩ := h
  by_cases hzero : r.capacity = 0
  · rw [Ring.push, if_pos hzero]
    exact ⟨hsize, heq, hlt⟩
  have hpos : 0 < r.capacity := by omega
  have hnext : (r.head + 1) % r.capacity < r.capacity := Nat.mod_lt _ hpos
  by_cases hroom : r.slots.size < r.capacity
  · rw [push_of_lt hroom]
    refine ⟨?_, ?_, fun _ => hnext⟩
    · show (r.slots.push v).size ≤ r.capacity
      rw [Array.size_push]
      omega
    · intro hstill
      rw [Array.size_push] at hstill ⊢
      rw [heq hroom]
      exact Nat.mod_eq_of_lt hstill
  · have hfull : r.slots.size = r.capacity := by omega
    rw [push_of_full hpos hfull]
    refine ⟨?_, ?_, fun _ => hnext⟩
    · rw [Array.size_setIfInBounds]
      exact hsize
    · intro hstill
      rw [Array.size_setIfInBounds] at hstill
      exact absurd hstill hroom

/-- With room, the values stand in the array as they are. -/
theorem toList_of_lt {r : Ring α} (h : r.slots.size < r.capacity) : r.toList = r.slots.toList := by
  rw [toList, if_pos h]

/-- Without room, the oldest value stands at the head. -/
theorem toList_of_full {r : Ring α} (h : r.slots.size = r.capacity) :
    r.toList = r.slots.toList.drop r.head ++ r.slots.toList.take r.head := by
  rw [toList, if_neg (by omega)]

theorem length_toList {r : Ring α} (h : r.InTurn) : r.toList.length = r.slots.size := by
  by_cases hroom : r.slots.size < r.capacity
  · rw [toList_of_lt hroom, Array.length_toList]
  · have hsize := h.size_le
    rw [toList_of_full (by omega), List.length_append, List.length_drop, List.length_take,
      Array.length_toList]
    by_cases hpos : 0 < r.capacity
    · have hhead := h.head_lt hpos
      omega
    · omega

/-- **One more value.** While there is room it stands behind the others, and the last place ends the first
round. -/
theorem toList_push_of_lt {r : Ring α} (h : r.InTurn) (hroom : r.slots.size < r.capacity) (v : α) :
    (r.push v).toList = r.toList ++ [v] := by
  rw [push_of_lt hroom, toList_of_lt hroom]
  by_cases hstill : r.slots.size + 1 < r.capacity
  · rw [toList_of_lt (by rw [Array.size_push]; exact hstill), Array.toList_push]
  · have hlast : r.slots.size + 1 = r.capacity := by omega
    rw [toList_of_full (by rw [Array.size_push]; exact hlast), Array.toList_push, h.head_eq hroom, hlast,
      Nat.mod_self, List.drop_zero, List.take_zero, List.append_nil]

/-- When there is no room it takes the place of the oldest one. -/
theorem toList_push_of_full {r : Ring α} (h : r.InTurn) (hpos : 0 < r.capacity)
    (hfull : r.slots.size = r.capacity) (v : α) : (r.push v).toList = r.toList.tail ++ [v] := by
  have hhead : r.head < r.slots.toList.length := by
    rw [Array.length_toList, hfull]
    exact h.head_lt hpos
  have hold : r.toList.tail = r.slots.toList.drop (r.head + 1) ++ r.slots.toList.take r.head := by
    rw [toList_of_full hfull, List.drop_eq_getElem_cons hhead]
    rfl
  rw [hold, push_of_full hpos hfull, toList_of_full (by rw [Array.size_setIfInBounds]; exact hfull),
    Array.toList_setIfInBounds, List.append_assoc]
  dsimp only
  by_cases hlast : r.head + 1 = r.capacity
  · -- the new value stands in the last place, and the round begins again
    have hlen : r.slots.toList.length = r.head + 1 := by
      rw [Array.length_toList, hfull, hlast]
    rw [hlast, Nat.mod_self, List.drop_zero, List.take_zero, List.append_nil,
      List.set_eq_take_append_cons_drop, if_pos hhead, ← hlast, List.drop_of_length_le hlen.le]
    rfl
  · have hnext : r.head + 1 < r.capacity := by
      have hlt := h.head_lt hpos
      omega
    have hbefore : (r.slots.toList.take r.head).length = r.head := List.length_take_of_le hhead.le
    rw [Nat.mod_eq_of_lt hnext, List.drop_set_of_lt (by omega), List.take_set,
      List.take_succ_eq_append_getElem hhead, List.set_append_right _ _ hbefore.le, hbefore,
      Nat.sub_self]
    rfl

/-- Values that were left out before one more came are not among the last ones after it. -/
theorem rtake_append_singleton (n : Nat) (vs : List α) (v : α) :
    (vs.rtake n ++ [v]).rtake n = (vs ++ [v]).rtake n := by
  cases n with
  | zero => rw [List.rtake_zero, List.rtake_zero]
  | succ n =>
    rw [List.rtake_concat_succ, List.rtake_concat_succ, List.rtake_eq_reverse_take_reverse,
      List.rtake_eq_reverse_take_reverse, List.rtake_eq_reverse_take_reverse, List.reverse_reverse,
      List.take_take, Nat.min_eq_left (Nat.le_succ n)]

/-- **One push.** The values are the old ones and the new one, as many of the last ones as there is room for. -/
theorem toList_push {r : Ring α} (h : r.InTurn) (v : α) :
    (r.push v).toList = (r.toList ++ [v]).rtake r.capacity := by
  have hlen := length_toList h
  have hsize := h.size_le
  by_cases hzero : r.capacity = 0
  · have hnil : r.toList = [] := List.eq_nil_of_length_eq_zero (by omega)
    rw [push, if_pos hzero, hnil, hzero, List.rtake_zero]
  by_cases hroom : r.slots.size < r.capacity
  · rw [toList_push_of_lt h hroom, List.rtake, List.length_append, List.length_singleton,
      Nat.sub_eq_zero_of_le (by omega), List.drop_zero]
  · have hne : r.toList ≠ [] := List.ne_nil_of_length_pos (by omega)
    rw [toList_push_of_full h (by omega) (by omega), List.rtake, List.length_append, List.length_singleton,
      show r.toList.length + 1 - r.capacity = 1 by omega, List.drop_one, List.tail_append_of_ne_nil hne]

theorem pushAll_concat (r : Ring α) (vs : List α) (v : α) :
    r.pushAll (vs ++ [v]) = (r.pushAll vs).push v := by
  rw [pushAll, List.foldl_append]
  rfl

/-- **A ring is a window.** Of all that was pushed to a new ring it holds the last values, as many as there is room
for. -/
theorem toList_pushAll (capacity : Nat) (vs : List α) :
    ((empty capacity).pushAll vs).toList = vs.rtake capacity := by
  have hall : ((empty capacity).pushAll vs).InTurn ∧ ((empty capacity).pushAll vs).capacity = capacity ∧
      ((empty capacity).pushAll vs).toList = vs.rtake capacity := by
    induction vs using List.reverseRecOn with
    | nil =>
      refine ⟨inTurn_empty capacity, rfl, ?_⟩
      simp [pushAll, empty, toList]
    | append_singleton vs v ih =>
      obtain ⟨hturn, hcapacity, hlist⟩ := ih
      rw [pushAll_concat]
      refine ⟨hturn.push v, (capacity_push _ v).trans hcapacity, ?_⟩
      rw [toList_push hturn, hcapacity, hlist, rtake_append_singleton]
  exact hall.2.2

end RouterTelemetry.Ring
