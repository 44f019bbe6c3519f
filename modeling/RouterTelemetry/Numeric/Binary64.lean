import RouterTelemetry.Numeric.Rounding
/-!
# Double precision numbers

Finite double precision numbers as a sign, a whole mantissa below `2 ^ 53` and a power of two. Products
and quotients are computed exactly and rounded once, so nothing depends on a machine's arithmetic.
-/

namespace RouterTelemetry.Numeric

/-- The number `± mantissa * 2 ^ exponent`. -/
structure Binary64 where
  negative : Bool
  mantissa : Nat
  exponent : Int
deriving DecidableEq, Repr

namespace Binary64

/-- Zero, with its sign. -/
def zero (negative : Bool) : Binary64 :=
  ⟨negative, 0, 0⟩

/-- The number nearest to `± a / b`, or `none` if that lies beyond the greatest finite one. -/
def ofRatio? (negative : Bool) (a b : Nat) : Option Binary64 :=
  if a = 0 then some (zero negative)
  else
    let e := max (unitExponent 53 a b) (-1074)
    let m := roundDivAt e a b
    let (m, e) := if m = Nat.pow 2 53 then (Nat.pow 2 52, e + 1) else (m, e)
    if 971 < e then none else if m = 0 then some (zero negative) else some ⟨negative, m, e⟩

/-- The absolute value as a quotient of natural numbers. -/
def ratio (x : Binary64) : Nat × Nat :=
  if 0 ≤ x.exponent then (x.mantissa * Nat.pow 2 x.exponent.toNat, 1)
  else (x.mantissa, Nat.pow 2 (-x.exponent).toNat)

/-- The product of the absolute values, rounded, with the sign of `x`. -/
def mul? (x y : Binary64) : Option Binary64 :=
  ofRatio? x.negative (x.ratio.1 * y.ratio.1) (x.ratio.2 * y.ratio.2)

/-- The quotient of the absolute values, rounded, with the sign of `x`. -/
def div? (x y : Binary64) : Option Binary64 :=
  ofRatio? x.negative (x.ratio.1 * y.ratio.2) (x.ratio.2 * y.ratio.1)

/-- The number nearest to `± digits * 10 ^ exponent`; `none` beyond the greatest finite one. -/
def ofDecimal? (negative : Bool) (digits : Nat) (exponent : Int) : Option Binary64 :=
  if digits = 0 then some (zero negative)
  else
    -- Far outside the range the powers of ten are not worth computing.
    let places := (Nat.toDigits 10 digits).length
    if 400 < exponent + places then none
    else if exponent + places < -400 then some (zero negative)
    else if 0 ≤ exponent then ofRatio? negative (digits * Nat.pow 10 exponent.toNat) 1
    else ofRatio? negative digits (Nat.pow 10 (-exponent).toNat)

/-! ## The shortest decimal that reads back -/

/-- The interval of values that round to a number: it is `(low / den, high / den)`, with both ends
included iff the mantissa is even, around `mid / den`. -/
structure Neighbourhood where
  low : Nat
  mid : Nat
  high : Nat
  den : Nat
  closed : Bool

/-- The neighbourhood of a number that is not zero. Below a power of two the neighbours are twice as
near. -/
def neighbourhood (x : Binary64) : Neighbourhood :=
  let half := if x.mantissa = Nat.pow 2 52 ∧ -1074 < x.exponent then 1 else 2
  let e := x.exponent - 2
  let (up, down) := if 0 ≤ e then (Nat.pow 2 e.toNat, 1) else (1, Nat.pow 2 (-e).toNat)
  ⟨(4 * x.mantissa - half) * up, 4 * x.mantissa * up, (4 * x.mantissa + 2) * up, down,
    x.mantissa % 2 == 0⟩

/-- The decimal exponent of the leading digit of `a / b`, not zero. -/
def leadingExponent (a b : Nat) : Int :=
  if b ≤ a then ((Nat.toDigits 10 (a / b)).length : Int) - 1
  else
    let places := (Nat.toDigits 10 (b / a)).length
    if b ≤ a * Nat.pow 10 (places - 1) then 1 - (places : Int) else -(places : Int)

/-- The multiple of `10 ^ unit` nearest to the middle of a neighbourhood, if it lies inside. -/
def Neighbourhood.decimal? (n : Neighbourhood) (unit : Int) : Option Nat :=
  let (up, down) := if 0 ≤ unit then (1, Nat.pow 10 unit.toNat) else (Nat.pow 10 (-unit).toNat, 1)
  let inside (d : Nat) : Bool :=
    let v := d * down * n.den
    if n.closed then n.low * up ≤ v && v ≤ n.high * up else n.low * up < v && v < n.high * up
  let d := n.mid * up / (down * n.den)
  let nearest := roundDiv (n.mid * up) (down * n.den)
  if inside nearest then some nearest
  else if inside d then some d
  else if inside (d + 1) then some (d + 1)
  else none

/-- The first of at most `count` units, each ten times finer than the one before, that has a multiple in
the neighbourhood. -/
def Neighbourhood.shortest (n : Neighbourhood) : Nat → Int → Nat × Int
  | 0, unit => ((n.decimal? unit).getD 0, unit)
  | count + 1, unit =>
    match n.decimal? unit with
    | some d => (d, unit)
    | none => n.shortest count (unit - 1)

/-- The digits and decimal exponent of the shortest decimal that rounds to `x`, not zero. -/
def shortestDecimal (x : Binary64) : Nat × Int :=
  let n := x.neighbourhood
  n.shortest 17 (leadingExponent n.mid n.den)

/-- The digits without the zeros at their end, which count in the exponent instead. -/
def dropZeros : List Char → Int → List Char × Int
  | [], k => ([], k)
  | '0' :: rest, k => dropZeros rest (k + 1)
  | c :: rest, k => ((c :: rest).reverse, k)

/-- The text of a number: its shortest decimal, with a point and at least one digit on either side of it
from `1e-5` up to `1e16`, and in scientific notation with a signed exponent elsewhere. -/
def text (x : Binary64) : List Char :=
  let digits :=
    if x.mantissa = 0 then ['0', '.', '0']
    else
      let (d, unit) := x.shortestDecimal
      let (ds, k) := dropZeros (Nat.toDigits 10 d).reverse unit
      let point : Int := ds.length + k
      if 0 ≤ k ∧ point ≤ 16 then ds ++ List.replicate k.toNat '0' ++ ['.', '0']
      else if 0 < point ∧ point ≤ 16 then ds.take point.toNat ++ '.' :: ds.drop point.toNat
      else if -5 < point ∧ point ≤ 0 then
        ['0', '.'] ++ List.replicate (-point).toNat '0' ++ ds
      else
        let e := point - 1
        let exponent :=
          'e' :: (if e < 0 then '-' else '+') :: Nat.toDigits 10 e.natAbs
        match ds with
        | [d] => d :: exponent
        | d :: rest => d :: '.' :: (rest ++ exponent)
        | [] => exponent
  if x.negative then '-' :: digits else digits

end Binary64

end RouterTelemetry.Numeric
