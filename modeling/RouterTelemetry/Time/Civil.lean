/-!
# The civil calendar

The proleptic Gregorian calendar: dates and the count of days since 1970-01-01, in both directions.
-/

namespace RouterTelemetry.Time

/-- Whether a year has a 29 February. -/
def isLeapYear (y : Int) : Bool :=
  y % 4 == 0 && (y % 100 != 0 || y % 400 == 0)

/-- The number of days of a month (1 to 12). -/
def daysInMonth (y : Int) (m : Nat) : Nat :=
  if m = 2 then (if isLeapYear y then 29 else 28)
  else if m = 4 ∨ m = 6 ∨ m = 9 ∨ m = 11 then 30
  else 31

/-- The number of days before 1 January of a year, counted from 1970-01-01. -/
def yearStart (y : Int) : Int :=
  365 * (y - 1970) + ((y - 1) / 4 - 492) - ((y - 1) / 100 - 19) + ((y - 1) / 400 - 4)

/-- The number of days of a year before the first of a month. -/
def daysBeforeMonth (y : Int) : Nat → Nat
  | 0 => 0
  | 1 => 0
  | m + 1 => daysBeforeMonth y m + daysInMonth y m

/-- A date of the calendar. -/
structure Date where
  year : Int
  month : Nat
  day : Nat
deriving DecidableEq, Repr

namespace Date

/-- The first and last year that a date may have. -/
def minYear : Int := -262143

/-- The last year that a date may have. -/
def maxYear : Int := 262142

/-- Whether the date is in the calendar. -/
def Exists (d : Date) : Prop :=
  minYear ≤ d.year ∧ d.year ≤ maxYear ∧ 1 ≤ d.month ∧ d.month ≤ 12 ∧ 1 ≤ d.day
    ∧ d.day ≤ daysInMonth d.year d.month

instance (d : Date) : Decidable d.Exists :=
  inferInstanceAs (Decidable (_ ∧ _ ∧ _ ∧ _ ∧ _ ∧ _))

/-- The number of days from 1970-01-01 to the date. -/
def toDays (d : Date) : Int :=
  yearStart d.year + (daysBeforeMonth d.year d.month : Nat) + ((d.day : Int) - 1)

/-- The year in which the day number `n` falls. -/
def yearOfDays (n : Int) : Int :=
  let y := (n + 719528) * 400 / 146097
  if n < yearStart y then y - 1
  else if yearStart (y + 1) ≤ n then y + 1
  else y

/-- The month and day of the day number `n` (from 0) of a year, looked for from month `m` on. -/
def monthDay (y : Int) : Nat → Nat → Nat → Nat × Nat
  | 0, m, n => (m, n + 1)
  | left + 1, m, n =>
    if n < daysInMonth y m then (m, n + 1) else monthDay y left (m + 1) (n - daysInMonth y m)

/-- The date of a day number. -/
def ofDays (n : Int) : Date :=
  let y := yearOfDays n
  let (m, d) := monthDay y 11 1 (n - yearStart y).toNat
  ⟨y, m, d⟩

end Date

/-- The day of the week of a day number; Sunday is 0. -/
def weekday (n : Int) : Nat :=
  ((n + 4) % 7).toNat

end RouterTelemetry.Time
