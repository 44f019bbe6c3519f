import RouterTelemetry.Proofs.Numeric.Rounding
import RouterTelemetry.Retry.Generator
/-!
# Draws of a generator

A draw of 1 is made again. The state of a generator moves on by an odd number, so it goes through all words, and at one
of them 0 is drawn: the tries for one draw are never used up. Main statements:

* `stops` : within as many draws as there are words, one is below 1;
* `draw_eq` : a draw of 1 is made again, however often;
* `draw_bounds` : a draw lies from 0 to below 1.
-/

namespace RouterTelemetry.Retry.Generator

open Numeric (roundRat_nonneg roundRat_zero)

/-! ## Tries -/

theorem fraction_nonneg (g : Generator) : 0 ≤ g.fraction.1 :=
  div_nonneg (roundRat_nonneg (by decide) (by positivity)) (by positivity)

/-- The last try. -/
theorem below_zero (g : Generator) :
    g.below 0 = if g.fraction.1 < 1 then g.fraction else (0, g.fraction.2) := by
  rfl

/-- A try with more to come. -/
theorem below_succ (tries : Nat) (g : Generator) :
    g.below (tries + 1) = if g.fraction.1 < 1 then g.fraction else g.fraction.2.below tries := by
  rfl

/-- Whether a draw below 1 comes after at most so many others. -/
def Stops : Nat → Generator → Prop
  | 0, g => g.fraction.1 < 1
  | tries + 1, g => g.fraction.1 < 1 ∨ Stops tries g.fraction.2

theorem Stops.succ {tries : Nat} {g : Generator} (h : Stops tries g) : Stops (tries + 1) g := by
  induction tries generalizing g with
  | zero => exact .inl h
  | succ tries ih => exact h.imp_right ih

theorem Stops.mono {m n : Nat} {g : Generator} (h : Stops m g) (hle : m ≤ n) : Stops n g := by
  induction hle with
  | refl => exact h
  | step _ ih => exact ih.succ

/-- A draw that stops leaves further tries unused. -/
theorem below_succ_of_stops {tries : Nat} {g : Generator} (h : Stops tries g) :
    g.below (tries + 1) = g.below tries := by
  induction tries generalizing g with
  | zero =>
    have hbelow : g.fraction.1 < 1 := h
    rw [below_succ 0, below_zero g, if_pos hbelow, if_pos hbelow]
  | succ tries ih =>
    rw [below_succ (tries + 1), below_succ tries g]
    by_cases hbelow : g.fraction.1 < 1
    · rw [if_pos hbelow, if_pos hbelow]
    · rw [if_neg hbelow, if_neg hbelow, ih (h.resolve_left hbelow)]

/-! ## States -/

/-- What the state of a generator moves on by. -/
def stride : UInt64 := 0x2d358dccaa6c78a5

theorem state_fraction (g : Generator) : g.fraction.2.state = g.state + stride :=
  rfl

/-- At the state 0 nothing but 0 is drawn. -/
theorem fraction_of_state {g : Generator} (h : g.state + stride = 0) : g.fraction.1 = 0 := by
  have hword : g.next.1 = 0 := by
    unfold next
    dsimp only
    rw [← stride, h]
    rfl
  unfold fraction
  dsimp only
  rw [hword]
  simp [roundRat_zero]

/-- A generator that comes to the state 0 stops there at the latest. -/
theorem stops_of_state (tries : Nat) {g : Generator} (h : g.state + (UInt64.ofNat tries + 1) * stride = 0) :
    Stops tries g := by
  -- one stride less is left after each try
  induction tries generalizing g with
  | zero =>
    have hzero : g.fraction.1 = 0 := fraction_of_state (by simpa using h)
    show g.fraction.1 < 1
    rw [hzero]
    exact one_pos
  | succ tries ih =>
    right
    apply ih
    rw [state_fraction, ← h, UInt64.ofNat_add]
    grind

/-- **Every generator stops in time.** The stride is odd, so it has an inverse, which tells how far it is to 0. -/
theorem stops (g : Generator) : Stops (Nat.pow 2 64 - 1) g := by
  have hinverse : (0x32e25c49d2beaf2d : UInt64) * stride = 1 := by decide
  obtain ⟨k, hk⟩ : ∃ k, -(g.state * 0x32e25c49d2beaf2d) - 1 = k := ⟨_, rfl⟩
  have hstops : Stops k.toNat g := by
    apply stops_of_state
    rw [UInt64.ofNat_toNat, ← hk]
    grind
  have hlt : k.toNat < 2 ^ 64 := k.toNat_lt
  exact hstops.mono (by rw [Nat.pow_eq]; omega)

/-- **A draw of 1 is made again,** however often. -/
theorem draw_eq (g : Generator) : g.draw = if g.fraction.1 < 1 then g.fraction else g.fraction.2.draw := by
  obtain ⟨n, hn⟩ : ∃ n, Nat.pow 2 64 = n + 1 := Nat.exists_eq_add_one.mpr (by decide)
  have hstops := g.fraction.2.stops
  unfold draw
  rw [hn, Nat.add_sub_cancel] at hstops
  rw [hn, below_succ n g, below_succ_of_stops hstops]

theorem below_bounds (tries : Nat) (g : Generator) : 0 ≤ (g.below tries).1 ∧ (g.below tries).1 < 1 := by
  induction tries generalizing g with
  | zero =>
    rw [below_zero]
    split
    case isTrue hbelow => exact ⟨g.fraction_nonneg, hbelow⟩
    case isFalse => exact ⟨le_rfl, one_pos⟩
  | succ tries ih =>
    rw [below_succ]
    split
    case isTrue hbelow => exact ⟨g.fraction_nonneg, hbelow⟩
    case isFalse => exact ih g.fraction.2

/-- **A draw lies from 0 to below 1.** -/
theorem draw_bounds (g : Generator) : 0 ≤ g.draw.1 ∧ g.draw.1 < 1 :=
  g.below_bounds (Nat.pow 2 64)

end RouterTelemetry.Retry.Generator
