import RouterTelemetry.Json.Basic
/-!
# JSON tokens

The words of a JSON text. They are found in one pass over the characters by a small automaton, which
refuses whatever is not a token. What a token denotes is settled here as well: the value of a number and
the characters of a string.
-/

namespace RouterTelemetry.Json

open Numeric (Binary64)

/-- A token. A string that holds half a surrogate pair has no text. -/
inductive Token where
  | arrayOpen
  | arrayClose
  | objectOpen
  | objectClose
  | comma
  | colon
  | string (s : Option String)
  | scalar (v : Json)

/-! ## Numbers -/

/-- The greatest whole number that is read without rounding. -/
def maxNatural : Nat :=
  Nat.pow 2 64 - 1

/-- The value of decimal digits, as far as it fits `maxNatural`, and how many digits were left over. -/
def takeDigits (start : Nat) : List Char → Nat × Nat
  | [] => (start, 0)
  | c :: rest =>
    let n := start * 10 + (c.toNat - '0'.toNat)
    if maxNatural < n then (start, rest.length + 1) else takeDigits n rest

/-- `10 ^ n` as a double. -/
def powerOfTen (n : Nat) : Binary64 :=
  (Binary64.ofDecimal? false 1 n).getD (.zero false)

/-- Divides by `10 ^ 308` until the power of ten that is left is one of the finite doubles. -/
def reduceExponent : Nat → Binary64 → Int → Option (Binary64 × Int)
  | 0, x, e => some (x, e)
  | n + 1, x, e =>
    if e.natAbs ≤ 308 then some (x, e)
    else if x.mantissa = 0 then some (x, 0)
    else if 0 ≤ e then none
    else (x.div? (powerOfTen 308)).bind fun y => reduceExponent n y (e + 308)

/-- The double that `± significand * 10 ^ exponent` is read as: the significand is rounded first, and the
product with the power of ten, or the quotient by it, is rounded again. -/
def scaled (negative : Bool) (significand : Nat) (exponent : Int) : Json :=
  let value := do
    let x ← Binary64.ofRatio? negative significand 1
    let (x, e) ← reduceExponent 4 x exponent
    if 0 ≤ e then x.mul? (powerOfTen e.toNat) else x.div? (powerOfTen e.natAbs)
  match value with
  | some x => .number (.real x)
  | none => .unreadable

/-- The greatest exponent that is read as a number. -/
def maxExponent : Nat :=
  Nat.pow 2 31 - 1

/-- The value of a number in its parts: sign, digits before the point, digits after it, and the sign and
digits of the exponent. -/
def numberValue (negative : Bool) (whole : List Char) (fraction : Option (List Char))
    (exponent : Option (Bool × List Char)) : Json :=
  let (n, excess) := takeDigits 0 whole
  match fraction, exponent with
  | none, none =>
    if excess ≠ 0 then scaled negative n excess
    else if ¬ negative then .number (.natural n)
    else if n = 0 then .number (.real (.zero true))
    else if n ≤ Nat.pow 2 63 then .number (.negative n)
    else scaled true n 0
  | _, _ =>
    let ds := fraction.getD []
    let (n, left) := takeDigits n ds
    let start : Int := (excess : Int) - (ds.length - left : Nat)
    match exponent with
    | none => scaled negative n start
    | some (minus, es) =>
      let e := Nat.ofDigitChars 10 es 0
      if maxExponent < e then
        if n ≠ 0 ∧ ¬ minus then .unreadable else .number (.real (.zero negative))
      else scaled negative n (if minus then start - e else start + e)

/-- Whether a character is one of the ten digits. -/
def isDigit (c : Char) : Bool :=
  '0' ≤ c && c ≤ '9'

/-- The sign and digits of an exponent that stands after its mark. -/
def exponent? (s : List Char) : Option (Bool × List Char) :=
  let (minus, ds) := match s with
    | '+' :: rest => (false, rest)
    | '-' :: rest => (true, rest)
    | _ => (false, s)
  if ds.isEmpty ∨ ¬ ds.all isDigit then none else some (minus, ds)

/-- The value of a number after its sign: digits without a needless zero in front, then perhaps a point
and digits, then perhaps an exponent. -/
def unsigned? (negative : Bool) (s : List Char) : Option Json := do
  let (whole, rest) := (s.takeWhile isDigit, s.dropWhile isDigit)
  if whole.isEmpty ∨ (whole.head? = some '0' ∧ 1 < whole.length) then none
  let (fraction, rest) := match rest with
    | '.' :: r => (some (r.takeWhile isDigit), r.dropWhile isDigit)
    | _ => (none, rest)
  if fraction = some [] then none
  match rest with
  | [] => some (numberValue negative whole fraction none)
  | c :: r =>
    if c = 'e' ∨ c = 'E' then
      (exponent? r).map fun e => numberValue negative whole fraction (some e)
    else none

/-- The value of a number. -/
def number? : List Char → Option Json
  | '-' :: rest => unsigned? true rest
  | s => unsigned? false s

/-! ## Strings -/

/-- What an escape by code unit or a character of a string contributes. -/
inductive Piece where
  | char (c : Char)
  | unit (n : Nat)

/-- The characters of the pieces of a string: two units that form a surrogate pair are one character, and
any other surrogate has no meaning. -/
def Piece.chars? : List Piece → Option (List Char)
  | [] => some []
  | .char c :: rest => (Piece.chars? rest).map (c :: ·)
  | .unit n :: rest =>
    if n < 0xD800 ∨ 0xDFFF < n then (Piece.chars? rest).map (Char.ofNat n :: ·)
    else if 0xDBFF < n then none
    else match rest with
      | .unit m :: rest =>
        if 0xDC00 ≤ m ∧ m ≤ 0xDFFF then
          (Piece.chars? rest).map
            (Char.ofNat (0x10000 + (n - 0xD800) * 0x400 + (m - 0xDC00)) :: ·)
        else none
      | _ => none

/-- The value of a hexadecimal digit. -/
def hexValue? (c : Char) : Option Nat :=
  if '0' ≤ c ∧ c ≤ '9' then some (c.toNat - '0'.toNat)
  else if 'a' ≤ c ∧ c ≤ 'f' then some (c.toNat - 'a'.toNat + 10)
  else if 'A' ≤ c ∧ c ≤ 'F' then some (c.toNat - 'A'.toNat + 10)
  else none

/-- The character that stands for `c` after a backslash. -/
def unescape? (c : Char) : Option Char :=
  if c = '"' ∨ c = '\\' ∨ c = '/' then some c
  else if c = 'b' then some (Char.ofNat 8)
  else if c = 'f' then some (Char.ofNat 12)
  else if c = 'n' then some '\n'
  else if c = 'r' then some '\r'
  else if c = 't' then some '\t'
  else none

/-! ## The automaton -/

/-- What the characters just read belong to. The parts of a token in progress are kept latest first. -/
inductive Mode where
  | between
  | word (read : List Char)
  | number (read : List Char)
  | string (read : List Piece)
  | escape (read : List Piece)
  | unit (read : List Piece) (missing : Nat) (value : Nat)

/-- The tokens found so far, latest first, and what is in progress. -/
structure Lexer where
  tokens : List Token
  mode : Mode

/-- The value that a word denotes. -/
def word? (s : List Char) : Option Json :=
  if s = "null".toList then some .null
  else if s = "true".toList then some (.bool true)
  else if s = "false".toList then some (.bool false)
  else none

/-- Takes a character that belongs to no token in progress. -/
def Lexer.start (tokens : List Token) (c : Char) : Option Lexer :=
  if c = ' ' ∨ c = '\n' ∨ c = '\r' ∨ c = '\t' then some ⟨tokens, .between⟩
  else if c = '[' then some ⟨.arrayOpen :: tokens, .between⟩
  else if c = ']' then some ⟨.arrayClose :: tokens, .between⟩
  else if c = '\x7b' then some ⟨.objectOpen :: tokens, .between⟩
  else if c = '\x7d' then some ⟨.objectClose :: tokens, .between⟩
  else if c = ',' then some ⟨.comma :: tokens, .between⟩
  else if c = ':' then some ⟨.colon :: tokens, .between⟩
  else if c = '"' then some ⟨tokens, .string []⟩
  else if c = '-' ∨ isDigit c then some ⟨tokens, .number [c]⟩
  else if 'a' ≤ c ∧ c ≤ 'z' then some ⟨tokens, .word [c]⟩
  else none

/-- Takes one character. -/
def Lexer.step (l : Lexer) (c : Char) : Option Lexer :=
  match l.mode with
  | .between => Lexer.start l.tokens c
  | .word read =>
    if 'a' ≤ c ∧ c ≤ 'z' then some ⟨l.tokens, .word (c :: read)⟩
    else (word? read.reverse).bind fun v => Lexer.start (.scalar v :: l.tokens) c
  | .number read =>
    if isDigit c ∨ c = '.' ∨ c = 'e' ∨ c = 'E' ∨ c = '+' ∨ c = '-' then
      some ⟨l.tokens, .number (c :: read)⟩
    else (number? read.reverse).bind fun v => Lexer.start (.scalar v :: l.tokens) c
  | .string read =>
    if c = '"' then
      some ⟨.string ((Piece.chars? read.reverse).map String.ofList) :: l.tokens, .between⟩
    else if c = '\\' then some ⟨l.tokens, .escape read⟩
    else if c.toNat < 0x20 then none
    else some ⟨l.tokens, .string (.char c :: read)⟩
  | .escape read =>
    if c = 'u' then some ⟨l.tokens, .unit read 4 0⟩
    else (unescape? c).map fun d => ⟨l.tokens, .string (.char d :: read)⟩
  | .unit read missing value =>
    (hexValue? c).map fun d =>
      if missing ≤ 1 then ⟨l.tokens, .string (.unit (value * 16 + d) :: read)⟩
      else ⟨l.tokens, .unit read (missing - 1) (value * 16 + d)⟩

/-- The tokens of a text that ends here. -/
def Lexer.finish (l : Lexer) : Option (List Token) :=
  match l.mode with
  | .between => some l.tokens.reverse
  | .word read => (word? read.reverse).map fun v => (.scalar v :: l.tokens).reverse
  | .number read => (number? read.reverse).map fun v => (.scalar v :: l.tokens).reverse
  | _ => none

/-- The tokens of a text, or `none` if some part of it is no token. -/
def tokens? (s : List Char) : Option (List Token) :=
  (s.foldlM Lexer.step ⟨[], .between⟩).bind Lexer.finish

end RouterTelemetry.Json
