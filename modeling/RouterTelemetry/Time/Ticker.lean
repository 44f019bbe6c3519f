/-!
# Tickers

Something that is due at regular times. A time that was missed is made up for, so that over any span a
ticker fires once for each of its times, however coarsely the clock is read.
-/

namespace RouterTelemetry.Time

/-- The span between two firings, and the time of the next one, in nanoseconds. -/
structure Ticker where
  period : Nat
  next : Nat
deriving DecidableEq, Repr

namespace Ticker

/-- A ticker that fires at once, and then after each period. -/
def immediate (now period : Nat) : Ticker :=
  ⟨period, now⟩

/-- A ticker that fires first after one period. -/
def delayed (now period : Nat) : Ticker :=
  ⟨period, now + period⟩

/-- How often the ticker is due at a time. -/
def due (t : Ticker) (now : Nat) : Nat :=
  if now < t.next then 0 else (now - t.next) / t.period + 1

/-- The ticker after `n` firings. -/
def fired (t : Ticker) (n : Nat) : Ticker :=
  { t with next := t.next + n * t.period }

end Ticker

end RouterTelemetry.Time
