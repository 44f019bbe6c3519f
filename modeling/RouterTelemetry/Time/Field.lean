import RouterTelemetry.Text.Blank
import RouterTelemetry.Time.Instant
/-!
# Fields of dates and times

How the numbers and marks of a written date are read, one after the other from the left. A field that is
out of its range is reported at once, before anything after it is looked at.
-/

namespace RouterTelemetry.Time

open RouterTelemetry.Text (trimStart)

/-- Why a written date or time is refused. -/
inductive FieldError where
  /-- A field, or the date as a whole, does not exist. -/
  | outOfRange
  /-- A character stands where it may not. -/
  | invalid
  /-- The text ends too early. -/
  | tooShort
  /-- The text goes on too long. -/
  | tooLong
deriving DecidableEq, Repr

/-- The wording of a refusal. -/
def FieldError.message : FieldError → String
  | .outOfRange => "input is out of range"
  | .invalid => "input contains invalid characters"
  | .tooShort => "premature end of input"
  | .tooLong => "trailing input"

/-- What is left of a text after a field was read from it. -/
abbrev FieldReader (α : Type) := List Char → Except FieldError (α × List Char)

namespace Field

/-- Whether a character is one of the ten digits. -/
def isDigit (c : Char) : Bool :=
  '0' ≤ c && c ≤ '9'

/-- The value of a list of digits. -/
def value (ds : List Char) : Nat :=
  Nat.ofDigitChars 10 ds 0

/-- Reads one digit at least and `width` at most. -/
def number (width : Nat) : FieldReader Nat := fun s =>
  match s with
  | [] => .error .tooShort
  | c :: _ =>
    if isDigit c then
      let ds := (s.take width).takeWhile isDigit
      .ok (value ds, s.drop ds.length)
    else .error .invalid

/-- Reads as many digits as there are, whose value fits a signed word of 64 bits. -/
def longNumber : FieldReader Nat := fun s => do
  let (n, rest) ← number s.length s
  if n < Nat.pow 2 63 then .ok (n, rest) else .error .outOfRange

/-- Reads a year: four digits at most, or any number of them after a sign. -/
def year : FieldReader Int := fun s => do
  let (y, rest) ← match s with
    | '-' :: r => (longNumber r).map fun (n, rest) => (-(n : Int), rest)
    | '+' :: r => (longNumber r).map fun (n, rest) => ((n : Int), rest)
    | _ => (number 4 s).map fun (n, rest) => ((n : Int), rest)
  if -(Nat.pow 2 31 : Int) ≤ y ∧ y < Nat.pow 2 31 then .ok (y, rest) else .error .outOfRange

/-- Reads a field of one or two digits, with blanks allowed in front, from `least` to `greatest`. -/
def twoDigits (least greatest : Nat) : FieldReader Nat := fun s => do
  let (n, rest) ← number 2 (trimStart s)
  if least ≤ n ∧ n ≤ greatest then .ok (n, rest) else .error .outOfRange

/-- Reads a mark. -/
def mark (c : Char) : FieldReader Unit
  | [] => .error .tooShort
  | d :: rest => if d = c then .ok ((), rest) else .error .invalid

/-- The names of the months, in lower case. -/
def monthNames : List (List Char) :=
  ["jan", "feb", "mar", "apr", "may", "jun", "jul", "aug", "sep", "oct", "nov", "dec"].map
    String.toList

/-- Reads the name of a month, in any case. -/
def monthName : FieldReader Nat := fun s =>
  let name := (s.take 3).map Char.toLower
  match monthNames.idxOf? name with
  | some i => .ok (i + 1, s.drop 3)
  | none => .error (if s.foldl (fun n c => n + c.utf8Size) 0 < 3 then .tooShort else .invalid)

/-- Reads hours, minutes and seconds with colons between them; `between` is skipped before a colon. The
result is the second of the day, and whether the second is a leap second. -/
def clock (between : List Char → List Char) : FieldReader (Int × Bool) := fun s => do
  let (h, s) ← twoDigits 0 23 s
  let (_, s) ← mark ':' (between s)
  let (m, s) ← twoDigits 0 59 s
  let (_, s) ← mark ':' (between s)
  let (sec, s) ← twoDigits 0 60 s
  let leap := sec == 60
  .ok ((h * 3600 + m * 60 + (if leap then 59 else (sec : Int)), leap), s)

end Field

/-- The instant of a date and clock reading, if the date exists. -/
def instantAt (d : Date) (second : Int) (leap : Bool) (nanos : Nat) : Except FieldError Instant :=
  if d.Exists then
    .ok (Instant.ofDay d.toDays second (nanos + if leap then nanosPerSecond else 0))
  else .error .outOfRange

/-- Reads a whole text of the form year, month name, day, clock, with blanks between the fields. The
result is the instant at which a clock in UTC shows it. -/
def readStamp (s : List Char) : Except FieldError Instant := do
  let (y, s) ← Field.year (trimStart s)
  let (m, s) ← Field.monthName (trimStart s)
  let (d, s) ← Field.twoDigits 1 31 s
  let ((sec, leap), s) ← Field.clock id (trimStart s)
  if s.isEmpty then instantAt ⟨y, m, d⟩ sec leap 0 else .error .tooLong

end RouterTelemetry.Time
