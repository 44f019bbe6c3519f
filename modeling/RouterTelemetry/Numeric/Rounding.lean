/-!
# Rounding quotients

Exact rounding of a quotient of natural numbers: to the nearest integer, and to a given number of
significant bits. A half goes to the even neighbour throughout.
-/

namespace RouterTelemetry.Numeric

/-- The integer nearest to `a / b`, of two equally near ones the even one. -/
def roundDiv (a b : Nat) : Nat :=
  let q := a / b
  let r := a % b
  if b < 2 * r ∨ (2 * r = b ∧ q % 2 = 1) then q + 1 else q

/-- The integer nearest to `a / b` in units of `2 ^ e`. -/
def roundDivAt (e : Int) (a b : Nat) : Nat :=
  if 0 ≤ e then roundDiv a (b * Nat.pow 2 e.toNat) else roundDiv (a * Nat.pow 2 (-e).toNat) b

/-- The unit `2 ^ e` in which the quotient `a / b`, not zero, has `bits` binary digits before the
point. -/
def unitExponent (bits : Nat) (a b : Nat) : Int :=
  let e : Int := (a.log2 : Int) - b.log2 - (bits - 1)
  let below : Bool :=
    if 0 ≤ e then a < b * Nat.pow 2 e.toNat * Nat.pow 2 (bits - 1)
    else a * Nat.pow 2 (-e).toNat < b * Nat.pow 2 (bits - 1)
  if below then e - 1 else e

/-- A rational number with at most `bits` significant bits, nearest to `q`. -/
def roundRat (bits : Nat) (q : Rat) : Rat :=
  let a := q.num.natAbs
  if a = 0 then 0
  else
    let e := unitExponent bits a q.den
    let m : Rat := (roundDivAt e a q.den : Int)
    let r := if 0 ≤ e then m * (Nat.pow 2 e.toNat : Int) else m / (Nat.pow 2 (-e).toNat : Int)
    if q.num < 0 then -r else r

end RouterTelemetry.Numeric
