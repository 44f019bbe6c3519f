import RouterTelemetry.Numeric.Decimal

/-!
# Socket addresses

Which texts name an address to listen on: an IPv4 address or a bracketed IPv6 address, a colon and a port.
-/

namespace RouterTelemetry.Net

open Numeric (digitValue? ofDigits?)

/-- An address and a port. The eight groups of an IPv6 address have sixteen bits each. -/
inductive SocketAddress where
  | v4 (octets : List Nat) (port : Nat)
  | v6 (groups : List Nat) (scope : Nat) (port : Nat)
deriving DecidableEq, Repr

namespace SocketAddress

/-- Passes the character `c`. -/
def exact (c : Char) : List Char → Option (List Char)
  | d :: rest => if d = c then some rest else none
  | [] => none

/-- The number at the front: all digits that stand there, at most `places` of them if that is given, and
below `bound`. -/
def number (base : Nat) (places : Option Nat) (zeros : Bool) (bound : Nat) (s : List Char) :
    Option (Nat × List Char) := do
  let ds := s.takeWhile fun c => (digitValue? base c).isSome
  let n ← ofDigits? base ds
  let tooLong := match places with
    | some p => p < ds.length
    | none => false
  if tooLong || (!zeros && ds.head? == some '0' && 1 < ds.length) || bound ≤ n then none
  else some (n, s.drop ds.length)

/-- The port at the end. -/
def port (s : List Char) : Option Nat := do
  let (n, rest) ← number 10 none true 65536 (← exact ':' s)
  if rest.isEmpty then some n else none

/-- The four numbers of an IPv4 address. -/
def octets (s : List Char) : Option (List Nat × List Char) := do
  let octet := number 10 (some 3) false 256
  let (a, s) ← octet s
  let (b, s) ← octet (← exact '.' s)
  let (c, s) ← octet (← exact '.' s)
  let (d, s) ← octet (← exact '.' s)
  some ([a, b, c, d], s)

/-- Up to `room` groups of an IPv6 address, whether an IPv4 address ends them, and the text behind them.
Groups after the first have a colon in front. -/
def groups (first : Bool) : Nat → List Char → List Nat × Bool × List Char
  | 0, s => ([], false, s)
  | room + 1, s =>
    let start := if first then some s else exact ':' s
    let embedded := if 0 < room then start.bind octets else none
    match embedded with
    | some ([a, b, c, d], rest) => ([a * 256 + b, c * 256 + d], true, rest)
    | _ =>
      match start.bind (number 16 (some 4) true 65536) with
      | some (g, rest) =>
        let (gs, mixed, rest) := groups false room rest
        (g :: gs, mixed, rest)
      | none => ([], false, s)

/-- An IPv6 address. Two colons stand for at least one group of zeros. -/
def address6 (s : List Char) : Option (List Nat × List Char) := do
  let (head, mixed, rest) := groups true 8 s
  if head.length = 8 then some (head, rest)
  else if mixed then none
  else
    let rest ← exact ':' (← exact ':' rest)
    let (tail, _, rest) := groups true (7 - head.length) rest
    some (head ++ List.replicate (8 - head.length - tail.length) 0 ++ tail, rest)

/-- The number of a zone, if one stands at the front. -/
def scope (s : List Char) : Nat × List Char :=
  match (exact '%' s).bind (number 10 none true (Nat.pow 2 32)) with
  | some r => r
  | none => (0, s)

/-- The socket address that a text names. -/
def ofText? (s : List Char) : Option SocketAddress :=
  match (octets s).bind fun (o, rest) => (port rest).map (SocketAddress.v4 o) with
  | some a => some a
  | none => do
    let (g, rest) ← address6 (← exact '[' s)
    let (z, rest) := scope rest
    let p ← port (← exact ']' rest)
    some (.v6 g z p)

end SocketAddress

end RouterTelemetry.Net
