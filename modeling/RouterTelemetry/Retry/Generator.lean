import RouterTelemetry.Numeric.Rounding
/-!
# Draws

A small generator of pseudo-random numbers. All its state is one word, so that a schedule of delays can be
made again from the word it began with.
-/

namespace RouterTelemetry.Retry

open Numeric (roundRat)

/-- The state of a generator. -/
structure Generator where
  state : UInt64
deriving DecidableEq, Repr

namespace Generator

/-- The next word, and the generator after it: the state moves on by a constant, and the two halves of
its product with a disturbed copy of itself are mixed. -/
def next (g : Generator) : UInt64 × Generator :=
  let s := g.state + 0x2d358dccaa6c78a5
  let t := s.toNat * (s ^^^ 0x8bb84b93962eacc9).toNat
  (UInt64.ofNat t ^^^ UInt64.ofNat (t / Nat.pow 2 64), ⟨s⟩)

/-- A draw from the numbers from 0 to 1, in double precision. -/
def fraction (g : Generator) : Rat × Generator :=
  let (w, g) := g.next
  (roundRat 53 (w.toNat / 2 : Nat) / Nat.pow 2 63, g)

/-- A draw below 1: a draw that was rounded up to 1 is made again, as often as `tries` allows. -/
def below (tries : Nat) (g : Generator) : Rat × Generator :=
  let (u, g) := g.fraction
  if u < 1 then (u, g)
  else
    match tries with
    | 0 => (0, g)
    | tries + 1 => below tries g

/-- A draw below 1. There are as many tries as states, so they are not used up. -/
def draw (g : Generator) : Rat × Generator :=
  g.below (Nat.pow 2 64)

end Generator

end RouterTelemetry.Retry
