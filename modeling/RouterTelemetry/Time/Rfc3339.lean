import RouterTelemetry.Time.Field
/-!
# Reading times of events

A date, a time of day and an offset from UTC, in the form of the internet profile of ISO 8601 and a little
beyond it: leading zeros may be left out, blanks may stand around the fields, a blank may stand for the
`T`, and the colon of the offset may be missing.
-/

namespace RouterTelemetry.Time.Rfc3339

open RouterTelemetry.Text (trimStart)

/-- Reads the digits of a fraction of a second, if a point comes next. More than nine digits are cut
off. -/
def fraction : FieldReader Nat
  | '.' :: s => do
    let (n, rest) ← Field.number 9 s
    .ok (n * Nat.pow 10 (9 - (s.length - rest.length)), rest.dropWhile Field.isDigit)
  | s => .ok (0, s)

/-- Reads exactly two digits, of which the first is at most `greatest`. -/
def pair (greatest : Char) : FieldReader Nat
  | a :: b :: rest =>
    if Field.isDigit a ∧ Field.isDigit b ∧ a ≤ greatest then .ok (Field.value [a, b], rest)
    else .error .invalid
  | _ => .error .tooShort

/-- Reads an offset from UTC as hours and minutes; the result is in seconds, positive to the east. -/
def hoursMinutes (s : List Char) : Except FieldError (Int × List Char) := do
  let (h, s) ← pair '9' s
  let (m, s) ← pair '5' (s.dropWhile fun c => c == ':' || Text.isBlank c)
  .ok (h * 3600 + m * 60, s)

/-- Reads an offset from UTC: a letter or name for UTC itself, or a sign, hours and minutes. -/
def offset (s : List Char) : Except FieldError (Int × List Char) :=
  if (s.take 3).map Char.toLower = ['u', 't', 'c'] then .ok (0, s.drop 3)
  else
    match s with
    | [] => .error .tooShort
    | c :: rest =>
      if c = 'Z' ∨ c = 'z' then .ok (0, rest)
      else if c = '+' then hoursMinutes rest
      else if c = '-' ∨ c = '\u2212' then
        (hoursMinutes rest).map fun (n, rest) => (-n, rest)
      else .error .invalid

/-- Reads a mark with blanks allowed in front. -/
def spacedMark (c : Char) (s : List Char) : Except FieldError (Unit × List Char) :=
  Field.mark c (trimStart s)

/-- Reads the mark between date and time. -/
def separator : FieldReader Unit
  | [] => .error .tooShort
  | c :: rest => if c = 'T' ∨ c = 't' ∨ c = ' ' then .ok ((), rest) else .error .invalid

/-- The instant that a text denotes. An offset of a day or more does not exist, and neither does a time
that is out of the calendar in UTC. -/
def read (s : List Char) : Except FieldError Instant := do
  let (y, s) ← Field.year (trimStart s)
  let (_, s) ← spacedMark '-' s
  let (m, s) ← Field.twoDigits 1 12 s
  let (_, s) ← spacedMark '-' s
  let (d, s) ← Field.twoDigits 1 31 s
  let (_, s) ← separator s
  let ((sec, leap), s) ← Field.clock trimStart s
  let (nanos, s) ← fraction s
  let (off, s) ← offset (trimStart s)
  if ¬ (trimStart s).isEmpty then .error .tooLong
  let t ← instantAt ⟨y, m, d⟩ sec leap nanos
  if off.natAbs < 86400 ∧ minSecs ≤ t.secs - off ∧ t.secs - off ≤ maxSecs then
    .ok ⟨t.secs - off, t.nanos⟩
  else .error .outOfRange
where
  /-- The first second of the calendar. -/
  minSecs : Int := yearStart Date.minYear * secondsPerDay
  /-- The last second of the calendar. -/
  maxSecs : Int := yearStart (Date.maxYear + 1) * secondsPerDay - 1

end RouterTelemetry.Time.Rfc3339
