import RouterTelemetry.Proofs.Time.Civil
import RouterTelemetry.Time.Zone
/-!
# Offsets of a zone

The offsets that a zone can have from UTC, in either direction, lie within an hour of each other. Main statements:

* `offsetAt_bounds` and `offsetOfLocal?_bounds` : each offset is that of standard time or of daylight saving time;
* `yearAt_bounds` : an instant lies in its local year.
-/

namespace RouterTelemetry.Time.Zone

/-- The offset of standard time. -/
def standard : Zone → Int
  | .fixed off => off
  | .daylight std _ _ => std

/-- The offset in force is that of standard time or of daylight saving time. -/
theorem offsetAt_bounds (z : Zone) (secs : Int) :
    z.standard ≤ z.offsetAt secs ∧ z.offsetAt secs ≤ z.standard + 3600 := by
  cases z with
  | fixed off =>
    show off ≤ off ∧ off ≤ off + 3600
    omega
  | daylight std start stop =>
    have hcases (inDaylight : Prop) [Decidable inDaylight] :
        std ≤ (if inDaylight then std + daylightShift else std) ∧
          (if inDaylight then std + daylightShift else std) ≤ std + 3600 := by
      rw [daylightShift]
      split <;> omega
    exact hcases _

/-- The offset of a local reading is that of standard time or of daylight saving time. -/
theorem offsetOfLocal?_bounds {z : Zone} {reading off : Int} (h : z.offsetOfLocal? reading = some off) :
    z.standard ≤ off ∧ off ≤ z.standard + 3600 := by
  cases z with
  | fixed off' =>
    obtain rfl := Option.some.inj h
    show off' ≤ off' ∧ off' ≤ off' + 3600
    omega
  | daylight std start stop =>
    have hcases : off = std ∨ off = std + daylightShift := by
      simp only [offsetOfLocal?] at h
      grind
    rw [daylightShift] at hcases
    show std ≤ off ∧ off ≤ std + 3600
    omega

/-- An instant lies in its local year. -/
theorem yearAt_bounds (z : Zone) (t : Instant) :
    yearStart (z.yearAt t) * 86400 ≤ t.secs + z.offsetAt t.secs ∧
      t.secs + z.offsetAt t.secs < yearStart (z.yearAt t + 1) * 86400 := by
  have hyear := yearStart_yearOfDays ((t.secs + z.offsetAt t.secs) / secondsPerDay)
  rw [yearAt]
  rw [secondsPerDay] at hyear ⊢
  omega

end RouterTelemetry.Time.Zone
