/-!
# Tallies

A number for each of many keys, zero for most of them. Numbers have no greatest one here; those of the agent are words
of sixty-four bits, which start again from zero after `2 ^ 64 - 1`, so what is said of a tally holds of it as long as no
number gets there. Main statements: `get_set` and `get_incr` say what an entry is after a change.
-/

namespace RouterTelemetry

/-- A number for each key; a key without an entry has zero. Entries stand in order of first use. -/
structure Tally (κ : Type) where
  entries : List (κ × Nat) := []
deriving Repr

namespace Tally

variable {κ : Type} [DecidableEq κ]

/-- The number of a key in a list of entries. -/
def find (k : κ) : List (κ × Nat) → Nat
  | [] => 0
  | (j, n) :: rest => if j = k then n else find k rest

/-- The entries with another number for a key. -/
def put (k : κ) (n : Nat) : List (κ × Nat) → List (κ × Nat)
  | [] => [(k, n)]
  | (j, m) :: rest => if j = k then (j, n) :: rest else (j, m) :: put k n rest

/-- The number of a key. -/
def get (t : Tally κ) (k : κ) : Nat :=
  find k t.entries

/-- The tally with another number for a key. -/
def set (t : Tally κ) (k : κ) (n : Nat) : Tally κ :=
  ⟨put k n t.entries⟩

/-- The tally with one more for a key. -/
def incr (t : Tally κ) (k : κ) : Tally κ :=
  t.set k (t.get k + 1)

theorem find_put (k j : κ) (n : Nat) (l : List (κ × Nat)) :
    find j (put k n l) = if j = k then n else find j l := by
  induction l with
  | nil => simp only [put, find]; split <;> simp_all [eq_comm]
  | cons e rest ih =>
    simp only [put]
    split
    · simp only [find]; split <;> grind
    · simp only [find]; grind

@[simp]
theorem get_set (t : Tally κ) (k j : κ) (n : Nat) :
    (t.set k n).get j = if j = k then n else t.get j :=
  find_put k j n t.entries

@[simp]
theorem get_incr (t : Tally κ) (k j : κ) :
    (t.incr k).get j = if j = k then t.get k + 1 else t.get j :=
  get_set t k j _

end Tally

end RouterTelemetry
