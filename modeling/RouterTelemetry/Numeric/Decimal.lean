/-!
# Decimal numbers

The written form of a decimal number: a sign, digits with or without a point, and an exponent.
-/

namespace RouterTelemetry.Numeric

/-- The number `± digits * 10 ^ exponent`. -/
structure Decimal where
  negative : Bool
  digits : Nat
  exponent : Int
deriving DecidableEq, Repr

/-- The value of a digit in a base of at most sixteen. -/
def digitValue? (base : Nat) (c : Char) : Option Nat :=
  let v :=
    if '0' ≤ c ∧ c ≤ '9' then c.toNat - '0'.toNat
    else if 'a' ≤ c ∧ c ≤ 'f' then c.toNat - 'a'.toNat + 10
    else if 'A' ≤ c ∧ c ≤ 'F' then c.toNat - 'A'.toNat + 10
    else 16
  if v < base then some v else none

/-- The number that digits denote; there has to be one at least. -/
def ofDigits? (base : Nat) (cs : List Char) : Option Nat :=
  if cs.isEmpty then none
  else cs.foldlM (fun n c => (digitValue? base c).map (n * base + ·)) 0

/-- The text behind a sign, and whether that was a minus. -/
def splitSign : List Char → Bool × List Char
  | '-' :: rest => (true, rest)
  | '+' :: rest => (false, rest)
  | rest => (false, rest)

/-- The exponent that stands behind the digits. -/
def exponent? : List Char → Option Int
  | [] => some 0
  | c :: rest =>
    if c = 'e' ∨ c = 'E' then
      let (negative, ds) := splitSign rest
      (ofDigits? 10 ds).map fun n => if negative then -(n : Int) else n
    else none

/-- The number that a text denotes. -/
def Decimal.ofText? (text : List Char) : Option Decimal := do
  let (negative, rest) := splitSign text
  let whole := rest.takeWhile Char.isDigit
  let rest := rest.drop whole.length
  let (part, rest) := match rest with
    | '.' :: more =>
      let part := more.takeWhile Char.isDigit
      (part, more.drop part.length)
    | _ => ([], rest)
  let digits ← ofDigits? 10 (whole ++ part)
  let e ← exponent? rest
  some ⟨negative, digits, e - part.length⟩

end RouterTelemetry.Numeric
