import RouterTelemetry.Retry.Generator
/-!
# Exponential backoff

The delays between attempts. The delay of attempt `i` is centred on `base * 2 ^ i` and spread evenly by up
to three tenths in either direction. Delays are whole nanoseconds; the arithmetic between them is that of
doubles, carried out exactly and rounded to 53 significant bits after each operation.
-/

namespace RouterTelemetry.Retry

open Numeric (roundRat roundDiv)

/-- The longest span of time, in nanoseconds: as many whole seconds as a word of 64 bits can count, and
all but one nanosecond more. -/
def maxSpan : Nat :=
  Nat.pow 2 64 * 1000000000 - 1

/-- Rounding of doubles. -/
def round (q : Rat) : Rat :=
  roundRat 53 q

/-- A span in seconds, as a double: the whole seconds and the fraction are rounded before they are
added. -/
def seconds (span : Nat) : Rat :=
  round (round ((span / 1000000000 : Nat) : Int)
    + round (((span % 1000000000 : Nat) : Int) / (1000000000 : Int)))

/-- The span nearest to a number of seconds that is not negative, if it is not too long. -/
def spanOf? (q : Rat) : Option Nat :=
  let n := roundDiv (q.num.toNat * 1000000000) q.den
  if n ≤ maxSpan then some n else none

/-- The attempt after which the delays grow no more. -/
def maxDoublings : Nat := 31

/-- The centre of the delay before retry `attempt`, counted from 0. -/
def center (attempt base : Nat) : Nat :=
  (spanOf? (round (seconds base * Nat.pow 2 (min attempt maxDoublings)))).getD maxSpan

/-- How far a delay may lie from its centre, as a part of the centre. -/
def jitter : Rat :=
  round (3 / 10)

/-- The delay around a centre that a draw from 0 to 1 selects. -/
def delayAround (center : Nat) (draw : Rat) : Nat :=
  if center = 0 then 0
  else
    let spread := round (seconds center * jitter)
    let offset := round (round (round (draw * 2) - 1) * spread)
    let span := round (seconds center + offset)
    (spanOf? (if 0 ≤ span then span else 0)).getD center

/-- The delay before retry `attempt`. Without a centre nothing is drawn. -/
def delay (attempt base : Nat) (g : Generator) : Nat × Generator :=
  let c := center attempt base
  if c = 0 then (0, g)
  else
    let (u, g) := g.draw
    (delayAround c u, g)

/-- The delays of `count` attempts from `attempt` on. -/
def delaysFrom (base attempt : Nat) : Nat → Generator → List Nat
  | 0, _ => []
  | count + 1, g =>
    let next := delay attempt base g
    next.1 :: delaysFrom base (attempt + 1) count next.2

/-- One delay for each attempt. No attempts count as one. -/
def schedule (base attempts : Nat) (g : Generator) : List Nat :=
  delaysFrom base 0 (max attempts 1) g

end RouterTelemetry.Retry
