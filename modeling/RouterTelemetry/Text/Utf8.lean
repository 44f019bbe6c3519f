/-!
# Text as bytes

The UTF-8 form of a text and its reading back. Reading is one pass of a small automaton over the bytes; what
is not well formed is either refused (`decode?`) or replaced (`decodeLossy`), each maximal piece of a
broken sequence by one replacement character.
-/

namespace RouterTelemetry.Text

/-- A byte sequence. -/
abbrev Bytes := List UInt8

/-- The UTF-8 form of a list of characters. -/
def encodeUtf8 (s : List Char) : Bytes :=
  s.flatMap String.utf8EncodeChar

namespace Utf8

/-- A character of which some bytes are still to come: the bits read so far, how many bytes are missing,
and the least and greatest value the next byte may have. -/
structure Pending where
  code : Nat
  missing : Nat
  least : Nat
  greatest : Nat

/-- What a byte at the start of a character means. -/
inductive Lead where
  | char (c : Char)
  | more (p : Pending)
  | broken

/-- Reads the first byte of a character. The limits on the second byte keep out the overlong forms, the
surrogates and what lies beyond the last code point. -/
def lead (b : Nat) : Lead :=
  if b < 0x80 then .char (Char.ofNat b)
  else if b < 0xC2 then .broken
  else if b < 0xE0 then .more ⟨b - 0xC0, 1, 0x80, 0xBF⟩
  else if b < 0xF0 then
    .more ⟨b - 0xE0, 2, if b = 0xE0 then 0xA0 else 0x80, if b = 0xED then 0x9F else 0xBF⟩
  else if b < 0xF5 then
    .more ⟨b - 0xF0, 3, if b = 0xF0 then 0x90 else 0x80, if b = 0xF4 then 0x8F else 0xBF⟩
  else .broken

/-- The state between two bytes: what was read, latest first, with `none` for a broken piece, and the
character in progress. -/
structure State where
  read : List (Option Char)
  pending : Option Pending

/-- Takes a byte that starts a character. -/
def State.start (read : List (Option Char)) (b : UInt8) : State :=
  match lead b.toNat with
  | .char c => ⟨some c :: read, none⟩
  | .more p => ⟨read, some p⟩
  | .broken => ⟨none :: read, none⟩

/-- Takes one byte. -/
def State.step (s : State) (b : UInt8) : State :=
  match s.pending with
  | none => State.start s.read b
  | some p =>
    if p.least ≤ b.toNat ∧ b.toNat ≤ p.greatest then
      let code := p.code * 64 + b.toNat % 64
      if p.missing ≤ 1 then ⟨some (Char.ofNat code) :: s.read, none⟩
      else ⟨s.read, some ⟨code, p.missing - 1, 0x80, 0xBF⟩⟩
    else State.start (none :: s.read) b

/-- All that was read, in order. -/
def State.finish (s : State) : List (Option Char) :=
  (match s.pending with
  | none => s.read
  | some _ => none :: s.read).reverse

/-- The characters of `bs`, with `none` for each broken piece. -/
def pieces (bs : Bytes) : List (Option Char) :=
  (bs.foldl State.step ⟨[], none⟩).finish

end Utf8

/-- The text of well-formed bytes. -/
def decodeUtf8? (bs : Bytes) : Option (List Char) :=
  (Utf8.pieces bs).mapM id

/-- The text of any bytes, with a replacement character for each broken piece. -/
def decodeLossy (bs : Bytes) : List Char :=
  (Utf8.pieces bs).map (·.getD '\uFFFD')

end RouterTelemetry.Text
