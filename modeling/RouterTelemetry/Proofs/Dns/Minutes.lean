import RouterTelemetry.Proofs.Dns.BucketCounts
import RouterTelemetry.Proofs.Dns.LineTimes
import RouterTelemetry.Proofs.Time.Minute
/-!
# Buckets and minutes

A bucket starts with the minute of UTC in which its queries were written. The queries of a leap second that ends a
minute are the exception: their second is taken for the first one of the next minute without being moved there, so that
it begins a bucket of its own. Main statements:

* `truncateToMinute_of_parse` : what becomes of the time of a line;
* `minutes_but_for_leap_seconds` : where buckets start, and which queries share one;
* `minute_split_by_leap_second` : a minute with a leap second has two buckets.
-/

namespace RouterTelemetry.Dns

open Time

/-! ## Times of calls -/

namespace Call

/-- The time at which a call is made. -/
def now : Call → Instant
  | .line _ now => now
  | .flush now => now

/-- Whether a call is made in the years 1680 to 2260. -/
def InEra (c : Call) : Prop :=
  1680 ≤ Zone.utc.yearAt c.now ∧ Zone.utc.yearAt c.now ≤ 2260

instance (c : Call) : Decidable c.InEra :=
  inferInstanceAs (Decidable (_ ∧ _))

/-- The seconds of these years. -/
theorem InEra.bounds {c : Call} (h : c.InEra) : -9151488000 ≤ c.now.secs ∧ c.now.secs < 9183110400 := by
  have hyear := Zone.utc.yearAt_bounds c.now
  have hoff : Zone.utc.offsetAt c.now.secs = 0 := rfl
  have hfirst : yearStart 1680 * 86400 = -9151488000 := by decide
  have hlast : yearStart (2260 + 1) * 86400 = 9183110400 := by decide
  have hlow := yearStart_mono h.1
  have hhigh := yearStart_mono (Int.add_le_add_right h.2 1)
  omega

end Call

/-- **The minute of a line.** It is the minute of its time, but for a leap second that ends one. -/
theorem truncateToMinute_of_parse {zone : Zone} {text : String} {now : Instant} {l : Line}
    (h : Line.parse zone text now = .ok l) (hera : (Call.line text now).InEra) :
    l.time.truncateToMinute = if l.time.EndsMinute then l.time else l.time.minute := by
  have hnear := Line.time_near h
  have hwhole := Line.nanos_of_parse h
  have hnow : -9151488000 ≤ now.secs ∧ now.secs < 9183110400 := hera.bounds
  have hnanos : l.time.nanos < 2 * nanosPerSecond := by
    rw [nanosPerSecond] at hwhole ⊢
    omega
  rw [Instant.truncateToMinute_eq hnanos (by omega) (by omega)]
  by_cases hend : l.time.EndsMinute
  · rw [if_pos hend, if_pos hend, ← hend.nanos_eq hwhole]
  · rw [if_neg hend, if_neg hend]

theorem mem_of_mem_sinceFlush {cs : List Call} {c : Call} (h : c ∈ sinceFlush cs) : c ∈ cs := by
  rw [sinceFlush, List.mem_reverse] at h
  exact List.mem_reverse.mp ((List.takeWhile_prefix _).subset h)

/-! ## Where buckets start -/

/-- Where a bucket starts that counts a query of the time `t`: on a minute of UTC, less than a minute before the query;
or at the query itself, in a leap second that ends a minute. -/
def StartsFor (start t : Instant) : Prop :=
  if t.EndsMinute then start = t
  else start.IsMinute ∧ start.le t = true ∧ t.secs < start.secs + 60

/-- A query is counted under the minute of its line. -/
theorem startsFor_of_queryKey? {zone : Zone} {hash : String → String} {c : Call} {l : Line} {k : BucketKey}
    (hera : c.InEra) (hl : c.line? zone = some l) (hk : l.queryKey? hash = some k) :
    StartsFor k.bucketStart l.time := by
  obtain ⟨text, now, rfl, hparse⟩ := Call.exists_parse hl
  have hstart : k.bucketStart = l.time.truncateToMinute := by
    rw [Line.queryKey?] at hk
    split at hk
    · rw [← Option.some.inj hk]
    · exact absurd hk (by simp)
  rw [StartsFor, hstart, truncateToMinute_of_parse hparse hera]
  split
  · rfl
  · exact ⟨Instant.isMinute_minute _, Instant.minute_le _, Instant.secs_lt_minute _⟩

/-- A query of a client for a type and a hash. -/
def Line.Asks (hash : String → String) (client type hashed : String) (l : Line) : Prop :=
  ∃ name, l.activity = .query client name type ∧ hash name = hashed

/-- Queries of one client for one type and one hash that are written in one minute of UTC are counted under one key,
unless one of them is written in a leap second that ends the minute and the other one is not. -/
theorem queryKey?_eq_iff {zone : Zone} {hash : String → String} {c c' : Call} {l l' : Line}
    {client type hashed : String} (hera : c.InEra) (hera' : c'.InEra) (hl : c.line? zone = some l)
    (hl' : c'.line? zone = some l') (hasks : l.Asks hash client type hashed)
    (hasks' : l'.Asks hash client type hashed) (hminute : l.time.minute = l'.time.minute) :
    l.queryKey? hash = l'.queryKey? hash ↔ (l.time.EndsMinute ↔ l'.time.EndsMinute) := by
  obtain ⟨name, hactivity, rfl⟩ := hasks
  obtain ⟨name', hactivity', hhash⟩ := hasks'
  obtain ⟨text, now, rfl, hparse⟩ := Call.exists_parse hl
  obtain ⟨text', now', rfl, hparse'⟩ := Call.exists_parse hl'
  rw [Line.queryKey?, Line.queryKey?, hactivity, hactivity', ← Instant.truncated_eq_iff
    (Line.nanos_of_parse hparse) (Line.nanos_of_parse hparse') hminute,
    ← truncateToMinute_of_parse hparse hera, ← truncateToMinute_of_parse hparse' hera']
  simp [hhash]

/-- **Buckets start on minutes, but for leap seconds.** A bucket that a flush gives out counts the queries of its key
since the flush before. It starts with their minute, and those are in one bucket that one client asks in one minute for
one type and one hash. Only the queries of a leap second that ends the minute have a bucket of their own, which starts
with that second. -/
theorem minutes_but_for_leap_seconds (zone : Zone) (hash : String → String) (capacity : Nat) (stats : Stats)
    {cs : List Call} (hera : ∀ c ∈ cs, c.InEra) (now : Instant) :
    let s := (Session.start hash capacity stats).calls zone cs
    (∀ b ∈ bucketsOf (s.correlator.flush s.stats now).1,
      0 < b.count ∧
        b.count = (sinceFlush cs).countP (fun c => c.queryKey? zone hash = some (bucketKey b)) ∧
        ∀ c ∈ sinceFlush cs, ∀ l, c.line? zone = some l → l.queryKey? hash = some (bucketKey b) →
          StartsFor b.bucketStart l.time) ∧
      ∀ c ∈ sinceFlush cs, ∀ c' ∈ sinceFlush cs, ∀ l l' client type hashed,
        c.line? zone = some l → c'.line? zone = some l' →
        l.Asks hash client type hashed → l'.Asks hash client type hashed → l.time.minute = l'.time.minute →
          (l.queryKey? hash = l'.queryKey? hash ↔ (l.time.EndsMinute ↔ l'.time.EndsMinute)) := by
  have hcounts := ((Tallied.start zone hash capacity stats).calls cs).buckets
  refine ⟨fun b hb => ?_, fun c hc c' hc' l l' client type hashed hl hl' hasks hasks' hminute => ?_⟩
  · rw [Correlator.flush, bucketsOf_events] at hb
    have hcount := hcounts.count_eq b hb
    refine ⟨?_, ?_, fun c hc l hl hk => ?_⟩
    · rw [hcount, List.count_pos_iff]
      exact (hcounts.mem_iff _).mp (List.mem_map_of_mem hb)
    · rw [hcount, List.count_filterMap]
      exact List.countP_congr fun c _ => by simp
    · exact startsFor_of_queryKey? (hera c (mem_of_mem_sinceFlush hc)) hl hk
  · exact queryKey?_eq_iff (hera c (mem_of_mem_sinceFlush hc)) (hera c' (mem_of_mem_sinceFlush hc')) hl hl'
      hasks hasks' hminute

/-- The first and the last second of a minute. -/
theorem minutes_of_one_minute :
    let cs := [Call.line "Jun 30 23:58:00 gw dnsmasq[1]: query[A] a.b from 192.0.2.1" ⟨1719791880, 0⟩,
      Call.line "Jun 30 23:58:59 gw dnsmasq[1]: query[A] a.b from 192.0.2.1" ⟨1719791939, 0⟩]
    let s := (Session.start id 8 {}).calls .utc cs
    (∀ c ∈ cs, c.InEra) ∧
      bucketsOf (s.correlator.flush s.stats ⟨1719792030, 0⟩).1 =
        [⟨⟨1719791880, 0⟩, "192.0.2.1", "A", "a.b", 2, 0⟩] ∧
      ∀ b ∈ bucketsOf (s.correlator.flush s.stats ⟨1719792030, 0⟩).1,
        0 < b.count ∧
          b.count = (sinceFlush cs).countP (fun c => c.queryKey? .utc id = some (bucketKey b)) ∧
          ∀ c ∈ sinceFlush cs, ∀ l, c.line? .utc = some l → l.queryKey? id = some (bucketKey b) →
            StartsFor b.bucketStart l.time :=
  ⟨by decide +kernel, by decide +kernel,
    (minutes_but_for_leap_seconds .utc id 8 {} (by decide +kernel) ⟨1719792030, 0⟩).1⟩

/-- A minute that ends with a leap second, in which a query follows another one. -/
theorem minute_split_by_leap_second :
    let cs := [Call.line "Jun 30 23:59:59 gw dnsmasq[1]: query[A] a.b from 192.0.2.1" ⟨1719791999, 0⟩,
      Call.line "Jun 30 23:59:60 gw dnsmasq[1]: query[A] a.b from 192.0.2.1" ⟨1719792000, 0⟩]
    let s := (Session.start id 8 {}).calls .utc cs
    (∀ c ∈ cs, c.InEra) ∧
      bucketsOf (s.correlator.flush s.stats ⟨1719792030, 0⟩).1 =
        [⟨⟨1719791940, 0⟩, "192.0.2.1", "A", "a.b", 1, 0⟩,
          ⟨⟨1719791999, 1000000000⟩, "192.0.2.1", "A", "a.b", 1, 0⟩] ∧
      ¬ (⟨1719791999, 1000000000⟩ : Instant).IsMinute := by
  refine ⟨?_, ?_, ?_⟩
  · decide +kernel
  · decide +kernel
  · decide +kernel

end RouterTelemetry.Dns
