/-!
# Rings

A history of fixed capacity: once it is full, each new value takes the place of the oldest one. The values
stand in one array, and `head` is the place that is written next.
-/

namespace RouterTelemetry

/-- The most recent `capacity` values that were pushed. -/
structure Ring (α : Type) where
  slots : Array α
  capacity : Nat
  head : Nat
deriving Repr

namespace Ring

variable {α : Type}

/-- A ring without values. -/
def empty (capacity : Nat) : Ring α :=
  ⟨#[], capacity, 0⟩

/-- Adds a value, in the place of the oldest one if the ring is full. -/
def push (r : Ring α) (v : α) : Ring α :=
  if r.capacity = 0 then r
  else
    { r with
      slots := if r.slots.size < r.capacity then r.slots.push v else r.slots.setIfInBounds r.head v
      head := (r.head + 1) % r.capacity }

/-- The number of values. -/
def size (r : Ring α) : Nat :=
  r.slots.size

/-- Whether there are no values. -/
def isEmpty (r : Ring α) : Bool :=
  r.slots.isEmpty

/-- The values, oldest first. -/
def toList (r : Ring α) : List α :=
  if r.slots.size < r.capacity then r.slots.toList
  else r.slots.toList.drop r.head ++ r.slots.toList.take r.head

/-- The ring after the pushes of a list of values. -/
def pushAll (r : Ring α) (vs : List α) : Ring α :=
  vs.foldl push r

end Ring

end RouterTelemetry
