import RouterTelemetry.Time.Instant
/-!
# Time zones

The zone in which the router's clock is shown: a fixed offset from UTC, or a standard time and a daylight
saving time one hour ahead of it that begins and ends by yearly rules. Main definitions: `Zone.offsetAt`
from UTC to local, and `Zone.offsetOfLocal?` back, where a local reading may not exist or may exist
twice.
-/

namespace RouterTelemetry.Time

/-- A yearly change of the clock: the `week`-th (5 for the last) given day of the week of a month, at a
local time in seconds. -/
structure Change where
  month : Nat
  week : Nat
  weekday : Nat
  time : Int
deriving DecidableEq, Repr

/-- The local reading, in seconds since 1970, at which a change takes place in a year: the one shown just
before it. -/
def Change.inYear (c : Change) (y : Int) : Int :=
  let first := Date.toDays ⟨y, c.month, 1⟩
  let offset := (c.weekday + 7 - Time.weekday first) % 7
  let day := offset + 7 * (c.week - 1)
  let day := if daysInMonth y c.month ≤ day then day - 7 else day
  (first + day) * secondsPerDay + c.time

/-- The zone of a clock. Offsets are in seconds, positive to the east. -/
inductive Zone where
  | fixed (offset : Int)
  | daylight (standard : Int) (start stop : Change)
deriving DecidableEq, Repr

namespace Zone

/-- The zone of UTC. -/
def utc : Zone := .fixed 0

/-- How far daylight saving time is ahead of standard time. -/
def daylightShift : Int := 3600

/-- The offset that is in force at a second of UTC. -/
def offsetAt (z : Zone) (secs : Int) : Int :=
  match z with
  | .fixed off => off
  | .daylight std start stop =>
    let y := Date.yearOfDays (secs / secondsPerDay)
    let begins := start.inYear y - std
    let ends := stop.inYear y - (std + daylightShift)
    let inDaylight : Bool :=
      if begins ≤ ends then begins ≤ secs && secs < ends else secs < ends || begins ≤ secs
    if inDaylight then std + daylightShift else std

/-- The offset that belongs to a local reading, in seconds since 1970. A reading that the start of daylight
saving skips has none; one that its end repeats is taken as standard time. -/
def offsetOfLocal? (z : Zone) (reading : Int) : Option Int :=
  match z with
  | .fixed off => some off
  | .daylight std start stop =>
    let y := Date.yearOfDays (reading / secondsPerDay)
    let s := start.inYear y
    let e := stop.inYear y
    if s ≤ e then
      if reading ≤ s then some std
      else if reading < s + daylightShift then none
      else if reading < e - daylightShift then some (std + daylightShift)
      else some std
    else
      if reading < e - daylightShift then some (std + daylightShift)
      else if reading < s then some std
      else if reading < s + daylightShift then none
      else some (std + daylightShift)

/-- The local year at an instant. -/
def yearAt (z : Zone) (t : Instant) : Int :=
  Date.yearOfDays ((t.secs + z.offsetAt t.secs) / secondsPerDay)

/-! ## The text of a zone -/

/-- Reads the name of a zone: letters, or anything between angle brackets. -/
def name? : List Char → Option (List Char)
  | '<' :: s =>
    match s.dropWhile (· != '>') with
    | '>' :: rest => some rest
    | _ => none
  | s =>
    let rest := s.dropWhile Char.isAlpha
    if rest.length = s.length then none else some rest

/-- Reads a number. -/
def number? (s : List Char) : Option (Int × List Char) :=
  let ds := s.takeWhile Char.isDigit
  if ds.isEmpty then none else some ((Nat.ofDigitChars 10 ds 0 : Nat), s.drop ds.length)

/-- Reads hours and perhaps minutes and seconds, as seconds. -/
def clock? (s : List Char) : Option (Int × List Char) := do
  let (h, s) ← number? s
  match s with
  | ':' :: s =>
    let (m, s) ← number? s
    match s with
    | ':' :: s =>
      let (sec, s) ← number? s
      some (h * 3600 + m * 60 + sec, s)
    | s => some (h * 3600 + m * 60, s)
  | s => some (h * 3600, s)

/-- Reads a signed clock reading. -/
def signedClock? : List Char → Option (Int × List Char)
  | '-' :: s => (clock? s).map fun (n, rest) => (-n, rest)
  | '+' :: s => clock? s
  | s => clock? s

/-- Reads a yearly change: a comma, `M`, month, week and weekday, and perhaps a slash and the time. -/
def change? (s : List Char) : Option (Change × List Char) := do
  let s ← match s with
    | ',' :: 'M' :: s => some s
    | _ => none
  let (m, s) ← number? s
  let s ← dot? s
  let (w, s) ← number? s
  let s ← dot? s
  let (d, s) ← number? s
  match s with
  | '/' :: s =>
    let (t, s) ← signedClock? s
    some (⟨m.toNat, w.toNat, d.toNat, t⟩, s)
  | s => some (⟨m.toNat, w.toNat, d.toNat, 7200⟩, s)
where
  /-- Reads a point. -/
  dot? : List Char → Option (List Char)
    | '.' :: s => some s
    | _ => none

/-- The zone that a text denotes: a name and the time to add to local time for UTC, then perhaps the name
of daylight saving time and the changes by which it begins and ends. -/
def ofText? (text : String) : Option Zone := do
  let s ← name? text.toList
  let (west, s) ← signedClock? s
  if s.isEmpty then some (.fixed (-west))
  else
    let s ← name? s
    let (start, s) ← change? s
    let (stop, s) ← change? s
    if s.isEmpty then some (.daylight (-west) start stop) else none

end Zone

end RouterTelemetry.Time
