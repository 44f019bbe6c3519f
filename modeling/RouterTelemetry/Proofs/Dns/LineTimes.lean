import RouterTelemetry.Proofs.Dns.Names
import RouterTelemetry.Proofs.Time.Stamp
import RouterTelemetry.Proofs.Time.Zone
/-!
# Times of lines

A line says when it was written, but not in which year: it is taken for one of the local year in which it is read, or of
the year before. Main statements:

* `instantIn_eq_ok_iff` and `instant_eq_ok_iff` : when a stamp is a time, and which;
* `parse_time` : what is known of the time of a line that is read;
* `time_near` : it is not far from the time at which the line is read.
-/

namespace RouterTelemetry.Dns.Line

open Text Time

/-- What a stamp denotes in a year: a local reading of that year, and the offset that belongs to it. -/
structure Denotes (zone : Zone) (year : Int) (t : Instant) (reading off : Int) : Prop where
  offset : zone.offsetOfLocal? reading = some off
  secs_eq : t.secs = reading - off
  first : yearStart year * 86400 ≤ reading
  last : reading < yearStart (year + 1) * 86400
  nanos : t.nanos = 0 ∨ t.nanos = nanosPerSecond

theorem Denotes.nanos_lt {zone : Zone} {year : Int} {t : Instant} {reading off : Int}
    (h : Denotes zone year t reading off) : t.nanos < 2 * nanosPerSecond := by
  rcases h.nanos with hnanos | hnanos <;> rw [hnanos] <;> decide

/-- A stamp is read in a year as a local reading, to which an offset belongs. -/
theorem instantIn_eq_ok_iff {zone : Zone} {year : Int} {stamp : List Char} {t : Instant} :
    instantIn zone year stamp = .ok t ↔
      ∃ reading off, readStamp ((toString year).toList ++ ' ' :: normalizeBlanks stamp) = .ok reading ∧
        zone.offsetOfLocal? reading.secs = some off ∧ t = ⟨reading.secs - off, reading.nanos⟩ := by
  unfold instantIn
  dsimp only
  cases readStamp ((toString year).toList ++ ' ' :: normalizeBlanks stamp) with
  | error e => simp
  | ok reading => cases hoff : zone.offsetOfLocal? reading.secs <;> simp [hoff, eq_comm]

/-- The year in which a line is read settles its time, unless that is too far ahead; then the year before does. -/
theorem instant_eq_ok_iff {zone : Zone} {stamp : List Char} {now t : Instant} :
    instant zone stamp now = .ok t ↔
      ∃ c, instantIn zone (zone.yearAt now) stamp = .ok c ∧
        ((c.since now ≤ tolerance ∧ c = t) ∨
          (tolerance < c.since now ∧ instantIn zone (zone.yearAt now - 1) stamp = .ok t)) := by
  simp only [instant, bind, Except.bind]
  cases instantIn zone (zone.yearAt now) stamp with
  | error e => simp
  | ok c =>
    dsimp only
    by_cases hahead : tolerance < c.since now
    · simp [hahead, Int.not_le.mpr hahead]
    · simp [hahead, Int.not_lt.mp hahead]

theorem instantIn_spec {zone : Zone} {year : Int} {stamp : List Char} {t : Instant}
    (h : instantIn zone year stamp = .ok t) : ∃ reading off, Denotes zone year t reading off := by
  obtain ⟨reading, off, hread, hoff, rfl⟩ := instantIn_eq_ok_iff.mp h
  obtain ⟨hfirst, hlast, hnanos⟩ := readStamp_inYear hread
  exact ⟨reading.secs, off, hoff, rfl, hfirst, hlast, hnanos⟩

/-- **The time of a line that is read.** -/
theorem parse_time {zone : Zone} {text : String} {now : Instant} {l : Line}
    (h : parse zone text now = .ok l) :
    ∃ year reading off, (year = zone.yearAt now ∨ year = zone.yearAt now - 1) ∧
      Denotes zone year l.time reading off := by
  obtain ⟨stamp, -, ht⟩ := shape?_of_parse h
  obtain ⟨c, hthis, ⟨-, rfl⟩ | ⟨-, hlast⟩⟩ := instant_eq_ok_iff.mp ht
  · obtain ⟨reading, off, hdenotes⟩ := instantIn_spec hthis
    exact ⟨_, reading, off, Or.inl rfl, hdenotes⟩
  · obtain ⟨reading, off, hdenotes⟩ := instantIn_spec hlast
    exact ⟨_, reading, off, Or.inr rfl, hdenotes⟩

/-- A line is written in a whole second, which may be a leap second. -/
theorem nanos_of_parse {zone : Zone} {text : String} {now : Instant} {l : Line}
    (h : parse zone text now = .ok l) : l.time.nanos = 0 ∨ l.time.nanos = nanosPerSecond := by
  obtain ⟨_, _, _, -, hdenotes⟩ := parse_time h
  exact hdenotes.nanos

/-- **A line is not read long before or after it was written.** -/
theorem time_near {zone : Zone} {text : String} {now : Instant} {l : Line}
    (h : parse zone text now = .ok l) :
    now.secs - 733 * 86400 ≤ l.time.secs ∧ l.time.secs ≤ now.secs + 367 * 86400 := by
  obtain ⟨year, reading, off, hyear, hdenotes⟩ := parse_time h
  have hnow := zone.yearAt_bounds now
  have hoffNow := zone.offsetAt_bounds now.secs
  have hoff := Zone.offsetOfLocal?_bounds hdenotes.offset
  have hsecs := hdenotes.secs_eq
  have hfirst := hdenotes.first
  have hlast := hdenotes.last
  have hthis := yearStart_add_one (zone.yearAt now)
  have hbefore := yearStart_add_one (zone.yearAt now - 1)
  have hdays := daysInYear_le (zone.yearAt now)
  have hdays' := daysInYear_le (zone.yearAt now - 1)
  rw [Int.sub_add_cancel] at hbefore
  rcases hyear with rfl | rfl
  · omega
  · rw [Int.sub_add_cancel] at hlast
    omega

end RouterTelemetry.Dns.Line
