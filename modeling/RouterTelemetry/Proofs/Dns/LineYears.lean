import RouterTelemetry.Proofs.Dns.LineTimes
import RouterTelemetry.Proofs.Dns.LoggedLines
/-!
# Years of lines

A line that is written does not say in which year. Read within the next 364 days, it gets its own time back, whether the
year has changed since or not. Read before it was written, it gets its own time back in the same year; in the year
before, it is taken for the same day of that year. Whatever a line says, its time is less than 367 days behind the
clock, and no more than a day ahead of it. Main statements:

* `instantIn_stampText` : what is read in a year of the stamp of a line that is written;
* `parse_of_past` : lines of the last 364 days;
* `parse_of_ahead` : lines of the next day;
* `parse_near_clock` : all lines.
-/

namespace RouterTelemetry.Dns

open Text Time

/-! ## Time between instants -/

/-- The nanoseconds between two instants, as far as their seconds tell: each is less than two seconds past its own. -/
theorem since_bounds {a b : Instant} (ha : a.nanos < 2 * nanosPerSecond) (hb : b.nanos < 2 * nanosPerSecond) :
    (a.secs - b.secs - 2) * nanosPerSecond < a.since b ∧ a.since b < (a.secs - b.secs + 2) * nanosPerSecond := by
  have hleap (i : Instant) : i.inLeapSecond = true ↔ nanosPerSecond ≤ i.nanos := by simp [Instant.inLeapSecond]
  simp only [Instant.since, hleap]
  rw [nanosPerSecond] at ha hb ⊢
  split
  · omega
  · split <;> omega

/-- Outside leap seconds, time is counted in seconds. -/
theorem since_of_not_leap {a b : Instant} (ha : a.nanos < nanosPerSecond) (hb : b.nanos < nanosPerSecond) :
    a.since b = (a.secs - b.secs) * nanosPerSecond + (a.nanos - b.nanos) := by
  have ha' : a.inLeapSecond = false := by simpa [Instant.inLeapSecond] using ha
  have hb' : b.inLeapSecond = false := by simpa [Instant.inLeapSecond] using hb
  simp [Instant.since, ha', hb']

/-! ## Lines of a zone with a fixed offset -/

section Fixed

variable {off : Int} {t now : Instant}

/-- What is read in a year of a stamp that is written in a whole second: the same day of that year. -/
theorem instantIn_stampText (off : Int) (hwhole : t.nanos = 0) {y : Int} (hy : 0 ≤ y ∧ y ≤ 9999)
    (hexists : ({ (Zone.fixed off).dateAt t with year := y } : Date).Exists) :
    Line.instantIn (.fixed off) y ((Zone.fixed off).reading t).stampText =
      .ok ⟨({ (Zone.fixed off).dateAt t with year := y } : Date).toDays * 86400 +
        ((Zone.fixed off).reading t).secondOfDay - off, 0⟩ := by
  have hleap : ((Zone.fixed off).reading t).inLeapSecond = false := by
    simp [Instant.inLeapSecond, Zone.reading, hwhole, nanosPerSecond]
  have hread := readStamp_of_year hy (Stamp.read_stampText (t := (Zone.fixed off).reading t) (by simp [hleap]))
  rw [Line.instantIn_eq_ok_iff]
  exact ⟨_, off, hread.trans (Stamp.inYear_eq_ok_iff.mpr ⟨hexists, rfl⟩), rfl, by simp [hleap, Stamp.date]; rfl⟩

/-- A local date and the second of its day make up the instant. -/
theorem toDays_dateAt (off : Int) (t : Instant) :
    ((Zone.fixed off).dateAt t).toDays * 86400 + ((Zone.fixed off).reading t).secondOfDay = t.secs + off := by
  have hsecs : ((Zone.fixed off).reading t).secs = t.secs + off := rfl
  rw [Zone.dateAt, Date.toDays_ofDays, Instant.dayNumber, Instant.secondOfDay, hsecs, secondsPerDay]
  omega

/-- The year in which a line is written gives it its own time. -/
theorem instantIn_yearAt (off : Int) (hwhole : t.nanos = 0)
    (hy : 0 ≤ (Zone.fixed off).yearAt t ∧ (Zone.fixed off).yearAt t ≤ 9999) :
    Line.instantIn (.fixed off) ((Zone.fixed off).yearAt t) ((Zone.fixed off).reading t).stampText = .ok t := by
  obtain ⟨-, hm, hm', hd, hd'⟩ := Date.ofDays_spec ((Zone.fixed off).reading t).dayNumber
  have hexists : ((Zone.fixed off).dateAt t).Exists := by
    refine ⟨?_, ?_, hm, hm', hd, hd'⟩
    · exact Int.le_trans (by decide) hy.1
    · exact Int.le_trans hy.2 (by decide)
  have hread := instantIn_stampText off hwhole hy hexists
  rw [hread, Except.ok.injEq]
  have hsecs := toDays_dateAt off t
  show Instant.mk (((Zone.fixed off).dateAt t).toDays * 86400 + _ - off) 0 = t
  rw [hsecs, Int.add_sub_cancel, ← hwhole]

/-- A later instant does not lie in an earlier year. -/
theorem yearAt_mono (off : Int) (h : t.secs ≤ now.secs) : (Zone.fixed off).yearAt t ≤ (Zone.fixed off).yearAt now := by
  refine yearOfDays_mono ?_
  simp only [Zone.offsetAt, secondsPerDay]
  omega

/-- An instant that is not a year later lies in the next year at the latest. -/
theorem yearAt_le_add_one (off : Int) (h : now.secs ≤ t.secs + 364 * 86400) :
    (Zone.fixed off).yearAt now ≤ (Zone.fixed off).yearAt t + 1 := by
  refine yearOfDays_le_add_one ?_
  simp only [Zone.offsetAt, secondsPerDay]
  omega

/-- A line that is read in its year, and not more than a day before it is written, gets its own time. -/
theorem instant_of_same_year (hwhole : t.nanos = 0)
    (hyear : 0 ≤ (Zone.fixed off).yearAt now ∧ (Zone.fixed off).yearAt now ≤ 9999)
    (hsame : (Zone.fixed off).yearAt t = (Zone.fixed off).yearAt now) (hnear : t.since now ≤ Line.tolerance) :
    Line.instant (.fixed off) ((Zone.fixed off).reading t).stampText now = .ok t := by
  rw [← hsame] at hyear
  have hread := instantIn_yearAt off hwhole hyear
  rw [hsame] at hread
  exact Line.instant_eq_ok_iff.mpr ⟨t, hread, Or.inl ⟨hnear, rfl⟩⟩

/-- The day of a date comes back in the next year. -/
theorem toDays_next_year (off : Int) (t : Instant) :
    ((Zone.fixed off).dateAt t).toDays + 365 ≤
      ({ (Zone.fixed off).dateAt t with year := (Zone.fixed off).yearAt t + 1 } : Date).toDays :=
  (Date.toDays_add_one_year _ (Date.ofDays_spec _).2.1 _).1

/-- A line that is read in the year after its own, within 364 days, gets its own time: in the year in which it is read,
it would be more than a day ahead. -/
theorem instant_of_year_before (hwhole : t.nanos = 0) (hnow : now.nanos < nanosPerSecond)
    (hyear : 1 ≤ (Zone.fixed off).yearAt now ∧ (Zone.fixed off).yearAt now ≤ 9999)
    (hbefore : (Zone.fixed off).yearAt now = (Zone.fixed off).yearAt t + 1)
    (hrecent : now.since t < 364 * 86400 * nanosPerSecond)
    (hdate : ({ (Zone.fixed off).dateAt t with year := (Zone.fixed off).yearAt now } : Date).Exists) :
    Line.instant (.fixed off) ((Zone.fixed off).reading t).stampText now = .ok t := by
  have hthis := instantIn_stampText off hwhole ⟨Int.le_trans (by decide) hyear.1, hyear.2⟩ hdate
  have hown := instantIn_yearAt off hwhole (by omega)
  refine Line.instant_eq_ok_iff.mpr ⟨_, hthis, Or.inr ⟨?_, ?_⟩⟩
  · -- the day comes back 365 days later at least, of which less than 364 have gone by
    have hsecs := toDays_dateAt off t
    have hback := toDays_next_year off t
    rw [← hbefore] at hback
    rw [since_of_not_leap hnow (by rw [hwhole]; decide), hwhole] at hrecent
    rw [since_of_not_leap (by show 0 < nanosPerSecond; decide) hnow, Line.tolerance]
    rw [nanosPerSecond] at hrecent ⊢
    dsimp only at hback ⊢
    omega
  · rw [hbefore, Int.add_sub_cancel]
    exact hown

/-- **A line of the last 364 days gets its own time back**, on either side of New Year, if its day is in the calendar of
the year in which it is read. -/
theorem parse_of_past {text : String} {a : Activity} (hlogged : Logged (.fixed off) t text a) (hwhole : t.nanos = 0)
    (hnow : now.nanos < nanosPerSecond)
    (hyear : 1 ≤ (Zone.fixed off).yearAt now ∧ (Zone.fixed off).yearAt now ≤ 9999) (hpast : 0 ≤ now.since t)
    (hrecent : now.since t < 364 * 86400 * nanosPerSecond)
    (hdate : ({ (Zone.fixed off).dateAt t with year := (Zone.fixed off).yearAt now } : Date).Exists) :
    Line.parse (.fixed off) text now = .ok ⟨t, a⟩ := by
  have ht : t.nanos < nanosPerSecond := by
    rw [hwhole]
    decide
  have hsince := since_of_not_leap hnow ht
  have hsince' := since_of_not_leap ht hnow
  rw [nanosPerSecond] at hsince hsince' hrecent
  have hnanos : now.nanos < 1000000000 := hnow
  have hlow : (Zone.fixed off).yearAt t ≤ (Zone.fixed off).yearAt now := yearAt_mono off (by omega)
  have hhigh : (Zone.fixed off).yearAt now ≤ (Zone.fixed off).yearAt t + 1 := yearAt_le_add_one off (by omega)
  have hinstant : Line.instant (.fixed off) ((Zone.fixed off).reading t).stampText now = .ok t := by
    rcases Int.lt_or_eq_of_le hlow with hlt | hsame
    · exact instant_of_year_before hwhole hnow hyear (by omega) hrecent hdate
    · refine instant_of_same_year hwhole ⟨by omega, hyear.2⟩ hsame ?_
      rw [Line.tolerance, nanosPerSecond]
      omega
  rw [hlogged.parse_eq, hinstant]
  rfl

/-- A line of the last second of a year that is read in the next one. -/
theorem parse_across_new_year :
    let zone : Zone := .fixed 3600
    let t : Instant := ⟨1735685999, 0⟩
    let now : Instant := ⟨1735686005, 0⟩
    let text := "Dec 31 23:59:59 router dnsmasq[1234]: query[A] a.example from 10.0.0.5"
    let a : Activity := .query "10.0.0.5" "a.example" "A"
    zone.yearAt t = 2024 ∧ zone.yearAt now = 2025 ∧ Logged zone t text a ∧
      Line.parse zone text now = .ok ⟨t, a⟩ := by
  intro zone t now text a
  have htext : text = String.ofList (zone.reading t).stampText ++ " " ++ "router" ++ " dnsmasq[" ++ "1234" ++
      "]: query[" ++ "A" ++ "] " ++ "a.example" ++ " from " ++ "10.0.0.5" := by decide +kernel
  have hlogged : Logged zone t text a := by
    rw [htext]
    exact .query (by decide +kernel) (by decide +kernel) (by decide +kernel) (by decide +kernel) (by decide +kernel)
  exact ⟨by decide, by decide, hlogged,
    parse_of_past hlogged rfl (by decide) (by decide) (by decide) (by decide) (by decide +kernel)⟩

/-- What is written in the next year, about a day from now, is written in January. -/
theorem dateAt_of_year_ahead (hnext : (Zone.fixed off).yearAt t = (Zone.fixed off).yearAt now + 1)
    (hnear : t.secs ≤ now.secs + 86401) :
    ∃ d, (Zone.fixed off).dateAt t = ⟨(Zone.fixed off).yearAt now + 1, 1, d⟩ ∧ 1 ≤ d ∧ d ≤ 31 := by
  have hmonth : ((Zone.fixed off).dateAt t).month = 1 := by
    have hlast := ((Zone.fixed off).yearAt_bounds now).2
    refine Date.month_ofDays_of_lt ?_
    show ((Zone.fixed off).reading t).dayNumber < yearStart ((Zone.fixed off).yearAt t) + 31
    rw [hnext]
    simp only [Instant.dayNumber, Zone.reading, Zone.offsetAt, secondsPerDay] at hlast ⊢
    omega
  obtain ⟨-, -, -, hd, hd'⟩ := Date.ofDays_spec ((Zone.fixed off).reading t).dayNumber
  refine ⟨((Zone.fixed off).dateAt t).day, ?_, hd, Nat.le_trans hd' (daysInMonth_le _ _)⟩
  rw [← hnext, ← hmonth]
  rfl

/-- A line that is read in the year before its own, about a day before it is written, is taken for the same day of that
year. -/
theorem instant_of_year_ahead (hwhole : t.nanos = 0) (hnow : now.nanos < 2 * nanosPerSecond)
    (hyear : 1 ≤ (Zone.fixed off).yearAt now ∧ (Zone.fixed off).yearAt now ≤ 9998)
    (hnext : (Zone.fixed off).yearAt t = (Zone.fixed off).yearAt now + 1) (hnear : t.secs ≤ now.secs + 86401) :
    Line.instant (.fixed off) ((Zone.fixed off).reading t).stampText now =
      .ok ⟨t.secs - daysInYear ((Zone.fixed off).yearAt now) * 86400, 0⟩ := by
  obtain ⟨d, hown, hd, hd'⟩ := dateAt_of_year_ahead hnext hnear
  have hthis : ({ (Zone.fixed off).dateAt t with year := (Zone.fixed off).yearAt now } : Date) =
      ⟨(Zone.fixed off).yearAt now, 1, d⟩ := by
    rw [hown]
  -- January has as many days in the year before
  have hexists : ({ (Zone.fixed off).dateAt t with year := (Zone.fixed off).yearAt now } : Date).Exists := by
    rw [hthis]
    exact ⟨Int.le_trans (by decide) hyear.1, Int.le_trans hyear.2 (by decide), Nat.le_refl 1, Nat.le_add_left 1 11,
      hd, hd'⟩
  have hread := instantIn_stampText off hwhole ⟨Int.le_trans (by decide) hyear.1, by omega⟩ hexists
  have hsecs := toDays_dateAt off t
  rw [hown, Date.toDays_january] at hsecs
  rw [hthis] at hread
  refine Line.instant_eq_ok_iff.mpr ⟨_, hread.trans ?_, Or.inl ⟨?_, rfl⟩⟩
  · rw [Except.ok.injEq, Instant.mk.injEq]
    exact ⟨by omega, rfl⟩
  · -- most of a year behind the clock is within the tolerance, which looks ahead only
    have hdays := le_daysInYear ((Zone.fixed off).yearAt now)
    have hsince := (since_bounds (a := ⟨t.secs - daysInYear ((Zone.fixed off).yearAt now) * 86400, 0⟩)
      (by show 0 < 2 * nanosPerSecond; decide) hnow).2
    rw [nanosPerSecond] at hsince
    rw [Line.tolerance, nanosPerSecond]
    dsimp only at hsince
    omega

/-- **A line of the next day gets its own time in the same year.** Written in the next year, it is taken for the same
day of the year in which it is read. -/
theorem parse_of_ahead {text : String} {a : Activity} (hlogged : Logged (.fixed off) t text a) (hwhole : t.nanos = 0)
    (hnow : now.nanos < 2 * nanosPerSecond)
    (hyear : 1 ≤ (Zone.fixed off).yearAt now ∧ (Zone.fixed off).yearAt now ≤ 9998) (hlater : t.le now = false)
    (hahead : t.since now ≤ 86400 * nanosPerSecond) :
    Line.parse (.fixed off) text now =
      .ok ⟨if (Zone.fixed off).yearAt t = (Zone.fixed off).yearAt now then t
        else ⟨t.secs - daysInYear ((Zone.fixed off).yearAt now) * 86400, 0⟩, a⟩ := by
  have hnear : t.secs ≤ now.secs + 86401 := by
    have hsince := (since_bounds (a := t) (b := now) (by rw [hwhole]; decide) hnow).1
    rw [nanosPerSecond] at hahead hsince
    omega
  have hbehind : now.secs ≤ t.secs := by
    simp only [Instant.le, Bool.or_eq_false_iff, decide_eq_false_iff_not] at hlater
    exact Int.not_lt.mp hlater.1
  have hlow : (Zone.fixed off).yearAt now ≤ (Zone.fixed off).yearAt t := yearAt_mono off hbehind
  have hhigh : (Zone.fixed off).yearAt t ≤ (Zone.fixed off).yearAt now + 1 := yearAt_le_add_one off (by omega)
  rw [hlogged.parse_eq]
  split
  · next hsame =>
    rw [instant_of_same_year hwhole ⟨by omega, by omega⟩ hsame hahead]
    rfl
  · next hother =>
    rw [instant_of_year_ahead hwhole hnow hyear (by omega) hnear]
    rfl

/-- A reply that is read five minutes before it is written. -/
theorem parse_ahead_in_june :
    let zone : Zone := .fixed (-14400)
    let t : Instant := ⟨1717243500, 0⟩
    let now : Instant := ⟨1717243200, 0⟩
    let text := "Jun  1 08:05:00 router dnsmasq[1234]: reply a.example is NXDOMAIN"
    let a : Activity := .reply "a.example" true
    t.le now = false ∧ t.since now ≤ 86400 * nanosPerSecond ∧ Logged zone t text a ∧
      Line.parse zone text now = .ok ⟨t, a⟩ := by
  intro zone t now text a
  have htext : text = String.ofList (zone.reading t).stampText ++ " " ++ "router" ++ " dnsmasq[" ++ "1234" ++
      "]: reply " ++ "a.example" ++ " is " ++ "NXDOMAIN" := by decide +kernel
  have hmissing : true = true ↔ NamesNothing "NXDOMAIN".toList := by
    rw [← Line.saysMissing_iff]
    decide +kernel
  have hlogged : Logged zone t text a := by
    rw [htext]
    exact .reply (by decide +kernel) (by decide +kernel) (by decide +kernel) (by decide +kernel) hmissing
  have hread : Line.parse zone text now = .ok ⟨if zone.yearAt t = zone.yearAt now then t else _, a⟩ :=
    parse_of_ahead hlogged rfl (by decide) (by decide) (by decide) (by decide)
  rw [if_pos (by decide)] at hread
  exact ⟨by decide, by decide, hlogged, hread⟩

/-- A line of the first seconds of a year that is read in the last ones of the year before is not given its own time: it
is taken for one of a year ago. -/
theorem parse_ahead_of_new_year :
    let t : Instant := ⟨1735689610, 0⟩
    let now : Instant := ⟨1735689570, 0⟩
    let text := "Jan  1 00:00:10 router dnsmasq[7]: query[A] a.example from 10.0.0.5"
    let a : Activity := .query "10.0.0.5" "a.example" "A"
    Logged (.fixed 0) t text a ∧ t.le now = false ∧ t.since now ≤ 86400 * nanosPerSecond ∧
      (Zone.fixed 0).yearAt now = 2024 ∧ (Zone.fixed 0).yearAt t = 2025 ∧
      Line.parse (.fixed 0) text now = .ok ⟨⟨1704067210, 0⟩, a⟩ ∧
      Line.parse (.fixed 0) text now ≠ .ok ⟨t, a⟩ := by
  intro t now text a
  have htext : text = String.ofList ((Zone.fixed 0).reading t).stampText ++ " " ++ "router" ++ " dnsmasq[" ++ "7" ++
      "]: query[" ++ "A" ++ "] " ++ "a.example" ++ " from " ++ "10.0.0.5" := by decide +kernel
  have hlogged : Logged (.fixed 0) t text a := by
    rw [htext]
    exact .query (by decide +kernel) (by decide +kernel) (by decide +kernel) (by decide +kernel) (by decide +kernel)
  exact ⟨hlogged, by decide, by decide, by decide, by decide, by decide +kernel, by decide +kernel⟩

end Fixed

/-! ## All lines -/

/-- What a stamp is read as in a year and in the year before is a year apart, and an hour at most if the clock is
changed. -/
theorem secs_of_year_before {zone : Zone} {year : Int} {stamp : List Char} {c t : Instant}
    (hc : Line.instantIn zone (year + 1) stamp = .ok c) (ht : Line.instantIn zone year stamp = .ok t) :
    c.secs ≤ t.secs + 366 * 86400 + 3600 := by
  obtain ⟨reading, off, hread, hoff, rfl⟩ := Line.instantIn_eq_ok_iff.mp hc
  obtain ⟨reading', off', hread', hoff', rfl⟩ := Line.instantIn_eq_ok_iff.mp ht
  obtain ⟨said, hsaid, hin⟩ := exists_stamp_of_readStamp hread
  obtain ⟨said', hsaid', hin'⟩ := exists_stamp_of_readStamp hread'
  -- the stamp says the same day and second in both years
  obtain rfl : said = said' := Except.ok.inj (hsaid.symm.trans hsaid')
  obtain ⟨-, rfl⟩ := Stamp.inYear_eq_ok_iff.mp hin
  obtain ⟨hexists, rfl⟩ := Stamp.inYear_eq_ok_iff.mp hin'
  have hdays := (Date.toDays_add_one_year year (m := said.month) hexists.2.2.1 said.day).2
  have hbounds := Zone.offsetOfLocal?_bounds hoff
  have hbounds' := Zone.offsetOfLocal?_bounds hoff'
  rw [Stamp.date, Stamp.date]
  dsimp only
  omega

/-- What a stamp is read as in the year of the clock is not a year behind it. -/
theorem near_of_this_year {zone : Zone} {stamp : List Char} {now t : Instant} (hnow : now.nanos < 2 * nanosPerSecond)
    (ht : Line.instantIn zone (zone.yearAt now) stamp = .ok t) : now.since t < 367 * 86400 * nanosPerSecond := by
  obtain ⟨reading, off, hdenotes⟩ := Line.instantIn_spec ht
  have hend := (zone.yearAt_bounds now).2
  have hfirst := hdenotes.first
  have hyear := yearStart_add_one (zone.yearAt now)
  have hdays := daysInYear_le (zone.yearAt now)
  have hoffset := zone.offsetAt_bounds now.secs
  have hoff := Zone.offsetOfLocal?_bounds hdenotes.offset
  have hsecs := hdenotes.secs_eq
  have hbehind := (since_bounds hnow hdenotes.nanos_lt).2
  rw [nanosPerSecond] at hbehind ⊢
  omega

/-- What a stamp is read as in the year before that of the clock is not a day ahead of it: that year is over. -/
theorem near_of_year_before {zone : Zone} {stamp : List Char} {now t : Instant} (hnow : now.nanos < 2 * nanosPerSecond)
    (ht : Line.instantIn zone (zone.yearAt now - 1) stamp = .ok t) : t.since now ≤ 86400 * nanosPerSecond := by
  obtain ⟨reading, off, hdenotes⟩ := Line.instantIn_spec ht
  have hfirst := (zone.yearAt_bounds now).1
  have hlast := hdenotes.last
  rw [Int.sub_add_cancel] at hlast
  have hoffset := zone.offsetAt_bounds now.secs
  have hoff := Zone.offsetOfLocal?_bounds hdenotes.offset
  have hsecs := hdenotes.secs_eq
  have hahead := (since_bounds hdenotes.nanos_lt hnow).2
  rw [nanosPerSecond] at hahead ⊢
  omega

/-- A stamp that is too far ahead in the year of the clock is less than 367 days behind it in the year before: what is
read in the two years is a year apart. -/
theorem near_of_far_ahead {zone : Zone} {stamp : List Char} {now c t : Instant}
    (hnow : now.nanos < 2 * nanosPerSecond) (hc : Line.instantIn zone (zone.yearAt now) stamp = .ok c)
    (hfar : Line.tolerance < c.since now) (ht : Line.instantIn zone (zone.yearAt now - 1) stamp = .ok t) :
    now.since t < 367 * 86400 * nanosPerSecond := by
  obtain ⟨_, _, hdenotes⟩ := Line.instantIn_spec hc
  obtain ⟨_, _, hdenotes'⟩ := Line.instantIn_spec ht
  rw [← Int.sub_add_cancel (zone.yearAt now) 1] at hc
  have hback := secs_of_year_before hc ht
  have hahead := (since_bounds hdenotes.nanos_lt hnow).2
  have hbehind := (since_bounds hnow hdenotes'.nanos_lt).2
  rw [Line.tolerance] at hfar
  rw [nanosPerSecond] at hfar hahead hbehind ⊢
  omega

/-- **The time of a line is close to the clock.** It is a day ahead at most, and less than 367 days behind. -/
theorem parse_near_clock {zone : Zone} {text : String} {now : Instant} (hnow : now.nanos < 2 * nanosPerSecond)
    {l : Line} (h : Line.parse zone text now = .ok l) :
    l.time.since now ≤ 86400 * nanosPerSecond ∧ now.since l.time < 367 * 86400 * nanosPerSecond := by
  obtain ⟨stamp, -, ht⟩ := Line.shape?_of_parse h
  obtain ⟨c, hthis, ⟨hnear, rfl⟩ | ⟨hfar, hlast⟩⟩ := Line.instant_eq_ok_iff.mp ht
  · exact ⟨hnear, near_of_this_year hnow hthis⟩
  · exact ⟨near_of_year_before hnow hlast, near_of_far_ahead hnow hthis hfar hlast⟩

/-- A line of December that is read in January, in a zone with daylight saving time. -/
theorem parse_near_clock_in_january :
    let zone : Zone := .daylight 3600 ⟨3, 5, 0, 7200⟩ ⟨10, 5, 0, 10800⟩
    let now : Instant := ⟨1736510400, 0⟩
    let text := "Dec 31 23:59:59 router dnsmasq[1234]: query[A] a.example from 10.0.0.5"
    let l : Line := ⟨⟨1735685999, 0⟩, .query "10.0.0.5" "a.example" "A"⟩
    Line.parse zone text now = .ok l ∧ l.time.since now ≤ 86400 * nanosPerSecond ∧
      now.since l.time < 367 * 86400 * nanosPerSecond := by
  intro zone now text l
  have hread : Line.parse zone text now = .ok l := by decide +kernel
  exact ⟨hread, parse_near_clock (by decide) hread⟩

end RouterTelemetry.Dns
