import RouterTelemetry.Time.Instant
/-!
# Minutes

An instant that is truncated to its minute becomes the start of a minute of UTC, unless it lies in a leap second that
ends one: such a second is counted as the first one of the next minute, but stays where it is. Main statement:
`truncateToMinute_eq`.
-/

namespace RouterTelemetry.Time.Instant

/-- The start of the minute of UTC that an instant lies in. A leap second lies in the minute of the second that it
continues. -/
def minute (t : Instant) : Instant :=
  ⟨60 * (t.secs / 60), 0⟩

/-- Whether an instant is the start of a minute of UTC. -/
def IsMinute (t : Instant) : Prop :=
  t.secs % 60 = 0 ∧ t.nanos = 0

/-- Whether an instant lies in a leap second that ends a minute of UTC. -/
def EndsMinute (t : Instant) : Prop :=
  t.inLeapSecond = true ∧ t.secs % 60 = 59

instance (t : Instant) : Decidable t.IsMinute :=
  inferInstanceAs (Decidable (_ ∧ _))

instance (t : Instant) : Decidable t.EndsMinute :=
  inferInstanceAs (Decidable (_ ∧ _))

theorem isMinute_minute (t : Instant) : t.minute.IsMinute :=
  ⟨Int.mul_emod_right 60 _, rfl⟩

theorem inLeapSecond_iff (t : Instant) : t.inLeapSecond = true ↔ nanosPerSecond ≤ t.nanos := by
  rw [inLeapSecond, decide_eq_true_eq]

/-- An instant lies in its minute. -/
theorem minute_le (t : Instant) : t.minute.le t = true := by
  have hsecs : t.minute.secs = 60 * (t.secs / 60) := rfl
  have hnanos : t.minute.nanos = 0 := rfl
  rw [le]
  simp only [Bool.or_eq_true, Bool.and_eq_true, decide_eq_true_eq, beq_iff_eq]
  omega

theorem secs_lt_minute (t : Instant) : t.secs < t.minute.secs + 60 := by
  show t.secs < 60 * (t.secs / 60) + 60
  omega

/-- Instants of one minute have one minute. -/
theorem minute_eq_iff (t u : Instant) : t.minute = u.minute ↔ t.secs / 60 = u.secs / 60 := by
  rw [minute, minute, mk.injEq]
  omega

/-- A leap second that is not divided is its first nanosecond. -/
theorem EndsMinute.nanos_eq {t : Instant} (h : t.EndsMinute) (hwhole : t.nanos = 0 ∨ t.nanos = nanosPerSecond) :
    t.nanos = nanosPerSecond := by
  have hleap := t.inLeapSecond_iff.mp h.1
  rw [nanosPerSecond] at *
  omega

/-- A leap second is the start of no minute. -/
theorem EndsMinute.ne_minute {t : Instant} (h : t.EndsMinute) (u : Instant) : t ≠ u.minute := by
  rintro rfl
  exact absurd h.1 (by simp [minute, inLeapSecond, nanosPerSecond])

/-- Seconds of one minute begin it together, unless one of them is a leap second that ends it. -/
theorem truncated_eq_iff {t u : Instant} (ht : t.nanos = 0 ∨ t.nanos = nanosPerSecond)
    (hu : u.nanos = 0 ∨ u.nanos = nanosPerSecond) (h : t.minute = u.minute) :
    (if t.EndsMinute then t else t.minute) = (if u.EndsMinute then u else u.minute) ↔
      (t.EndsMinute ↔ u.EndsMinute) := by
  have hminute := (minute_eq_iff t u).mp h
  by_cases hte : t.EndsMinute <;> by_cases hue : u.EndsMinute
  · -- they are the same second
    have hsecs : t.secs = u.secs := by
      have ht' := hte.2
      have hu' := hue.2
      omega
    have hsame : t = u := by
      cases t
      cases u
      rw [mk.injEq]
      exact ⟨hsecs, (hte.nanos_eq ht).trans (hue.nanos_eq hu).symm⟩
    rw [if_pos hte, if_pos hue, iff_true_intro hsame]
    exact (iff_true_intro (iff_of_true hte hue)).symm
  · rw [if_pos hte, if_neg hue]
    exact iff_of_false (hte.ne_minute u) fun hiff => hue (hiff.mp hte)
  · rw [if_neg hte, if_pos hue]
    exact iff_of_false (hue.ne_minute t).symm fun hiff => hte (hiff.mpr hue)
  · rw [if_neg hte, if_neg hue, iff_true_intro h]
    exact (iff_true_intro (iff_of_false hte hue)).symm

/-- The nanoseconds since 1970 of an instant of our time. -/
theorem nanosSince1970?_eq {t : Instant} (hnanos : t.nanos < 2 * nanosPerSecond)
    (hfirst : -9223372036 ≤ t.secs) (hlast : t.secs ≤ 9223372034) :
    t.nanosSince1970? = some (t.secs * 1000000000 + t.nanos) := by
  have hfits : -(9223372036854775808 : Int) ≤ t.secs * 1000000000 + t.nanos ∧
      t.secs * 1000000000 + t.nanos < 9223372036854775808 := by
    rw [nanosPerSecond] at hnanos
    omega
  exact if_pos hfits

/-- Going back by the nanoseconds since the last minute. -/
theorem before_minute {t : Instant} (hnanos : t.nanos < 2 * nanosPerSecond) {n : Nat}
    (hn : (t.secs * 1000000000 + t.nanos) % 60000000000 = n) :
    t.before n = if t.EndsMinute then ⟨t.secs, nanosPerSecond⟩ else t.minute := by
  have hleap := t.inLeapSecond_iff
  rw [nanosPerSecond] at hnanos hleap
  rw [before]
  by_cases hend : t.EndsMinute
  · -- the count is that of the next minute, and going back to its start stays in the leap second
    obtain ⟨hin, hlast⟩ := hend
    have hlow := hleap.mp hin
    have hsmall : n < nanosPerSecond := by
      rw [nanosPerSecond]
      omega
    rw [if_pos ⟨hin, hsmall⟩, if_pos ⟨hin, hlast⟩, mk.injEq, nanosPerSecond]
    omega
  · have hout : ¬(t.inLeapSecond = true ∧ n < nanosPerSecond) := by
      rintro ⟨hin, hsmall⟩
      have hlow := hleap.mp hin
      rw [nanosPerSecond] at hsmall
      exact hend ⟨hin, by omega⟩
    rw [if_neg hout, if_neg hend, minute, mk.injEq]
    have hsecs : ¬(1000000000 ≤ t.nanos ∧ t.secs % 60 = 59) := fun h => hend ⟨hleap.mpr h.1, h.2⟩
    rw [nanosPerSecond]
    omega

/-- **What becomes of an instant of our time that is truncated to its minute.** -/
theorem truncateToMinute_eq {t : Instant} (hnanos : t.nanos < 2 * nanosPerSecond)
    (hfirst : -9223372036 ≤ t.secs) (hlast : t.secs ≤ 9223372034) :
    t.truncateToMinute = if t.EndsMinute then ⟨t.secs, nanosPerSecond⟩ else t.minute := by
  obtain ⟨n, hn⟩ : ∃ n : Nat, (t.secs * 1000000000 + t.nanos) % 60000000000 = n :=
    Int.eq_ofNat_of_zero_le (Int.emod_nonneg _ (by decide))
  rw [truncateToMinute, nanosSince1970?_eq hnanos hfirst hlast]
  show t.before ((t.secs * 1000000000 + t.nanos) % 60000000000).toNat = _
  rw [hn, Int.toNat_natCast]
  exact before_minute hnanos hn

end RouterTelemetry.Time.Instant
