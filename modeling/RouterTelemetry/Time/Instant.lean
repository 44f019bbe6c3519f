import RouterTelemetry.Time.Civil
/-!
# Instants

Points in time, to the nanosecond, on the civil time scale. A leap second is the continuation of the second
before it: its nanoseconds are counted from one thousand million on, and no second of its own exists.
-/

namespace RouterTelemetry.Time

/-- A number of nanoseconds in a second. -/
def nanosPerSecond : Nat := 1000000000

/-- The number of seconds in a day without a leap second. -/
def secondsPerDay : Int := 86400

/-- A point in time: the seconds since 1970-01-01T00:00:00Z, and the nanoseconds after that second, below
one thousand million, or below two thousand million inside a leap second. -/
structure Instant where
  secs : Int
  nanos : Nat
deriving DecidableEq, Repr

namespace Instant

/-- Whether the instant lies inside a leap second. -/
def inLeapSecond (t : Instant) : Bool :=
  nanosPerSecond ≤ t.nanos

/-- The day number, counted from 1970-01-01. -/
def dayNumber (t : Instant) : Int :=
  t.secs / secondsPerDay

/-- The second within the day. -/
def secondOfDay (t : Instant) : Int :=
  t.secs % secondsPerDay

/-- The instant at a second of a day. -/
def ofDay (day : Int) (second : Int) (nanos : Nat) : Instant :=
  ⟨day * secondsPerDay + second, nanos⟩

/-- The order of time. A leap second comes after the second that it continues. -/
def le (a b : Instant) : Bool :=
  a.secs < b.secs || (a.secs == b.secs && a.nanos ≤ b.nanos)

/-- The nanoseconds from `b` to `a`. A leap second counts if one of the two lies in it and the other is
later within the day; any other leap second is not known of. -/
def since (a b : Instant) : Int :=
  let leap : Int :=
    if b.secondOfDay < a.secondOfDay ∧ b.inLeapSecond then nanosPerSecond
    else if a.secondOfDay < b.secondOfDay ∧ a.inLeapSecond then -nanosPerSecond
    else 0
  (a.secs - b.secs) * nanosPerSecond + leap + ((a.nanos : Int) - b.nanos)

/-- The instant `n` nanoseconds earlier. Inside a leap second, less than a second back stays within the
second that the leap second continues, and more leaves the leap second behind. -/
def before (t : Instant) (n : Nat) : Instant :=
  if t.inLeapSecond ∧ n < nanosPerSecond then ⟨t.secs, t.nanos - n⟩
  else
    let total : Int := t.secs * nanosPerSecond + t.nanos - n
    ⟨total / nanosPerSecond, (total % nanosPerSecond).toNat⟩

/-- The nanoseconds since 1970, where they fit a signed word of 64 bits. -/
def nanosSince1970? (t : Instant) : Option Int :=
  let n : Int := t.secs * nanosPerSecond + t.nanos
  if -(Nat.pow 2 63 : Int) ≤ n ∧ n < Nat.pow 2 63 then some n else none

/-- The start of the minute of an instant, counted in nanoseconds since 1970; an instant too far away to
be counted so stays as it is. -/
def truncateToMinute (t : Instant) : Instant :=
  match t.nanosSince1970? with
  | some n => t.before (n % (60 * nanosPerSecond)).toNat
  | none => t

/-! ## Text -/

/-- The decimal digits of `n`, with zeros in front up to `width`. -/
def padded (width : Nat) (n : Nat) : List Char :=
  let ds := Nat.toDigits 10 n
  List.replicate (width - ds.length) '0' ++ ds

/-- A year: four digits, and outside 0 to 9999 a sign as well. -/
def yearText (y : Int) : List Char :=
  if 0 ≤ y ∧ y ≤ 9999 then padded 4 y.natAbs
  else (if y < 0 then '-' else '+') :: padded 4 y.natAbs

/-- The date as year, month and day. -/
def dateText (d : Date) : List Char :=
  yearText d.year ++ '-' :: (padded 2 d.month ++ '-' :: padded 2 d.day)

/-- The time of day as hours, minutes and seconds. A leap second is the second after the one that it
continues. -/
def clockText (t : Instant) : List Char :=
  let s := t.secondOfDay.toNat
  let leap := if t.inLeapSecond then 1 else 0
  padded 2 (s / 3600) ++ ':' :: (padded 2 (s / 60 % 60) ++ ':' :: padded 2 (s % 60 + leap))

/-- The fraction of a second with 0, 3, 6 or 9 digits, the fewest that lose nothing. -/
def fractionText (t : Instant) : List Char :=
  let n := t.nanos % nanosPerSecond
  if n = 0 then []
  else if n % 1000000 = 0 then '.' :: padded 3 (n / 1000000)
  else if n % 1000 = 0 then '.' :: padded 6 (n / 1000)
  else '.' :: padded 9 n

/-- The instant as UTC date and time, without fraction. -/
def secondsText (t : Instant) : List Char :=
  dateText (Date.ofDays t.dayNumber) ++ 'T' :: (t.clockText ++ ['Z'])

/-- The instant as UTC date and time. -/
def text (t : Instant) : List Char :=
  dateText (Date.ofDays t.dayNumber) ++ 'T' :: (t.clockText ++ t.fractionText ++ ['Z'])

end Instant

end RouterTelemetry.Time
