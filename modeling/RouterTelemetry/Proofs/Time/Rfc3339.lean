import RouterTelemetry.Proofs.Text.Digits
import RouterTelemetry.Proofs.Text.Trim
import RouterTelemetry.Proofs.Time.Civil
import RouterTelemetry.Time.Rfc3339
/-!
# Times survive as text

An instant that a clock can show is read back from its text: years outside 0 to 9999, fractions of every length
and leap seconds included. Each part of a text is read in front of whatever follows it. Main statements:

* `Field.number_append` : digits are read as their value;
* `Field.year_yearText`, `Field.clock_clockText` and `Rfc3339.fraction_fractionText` : the parts of a text;
* `Rfc3339.read_text` : the text of an instant is read as that instant.
-/

namespace RouterTelemetry.Time

open Text
open Instant (padded)

namespace Instant

/-- Whether a clock can show the instant: its second is one of the calendar, and it lies in that second or in a leap
second that continues the last second of a minute. -/
structure Shown (t : Instant) : Prop where
  first : Rfc3339.read.minSecs ≤ t.secs
  last : t.secs ≤ Rfc3339.read.maxSecs
  nanos : t.nanos < 2 * nanosPerSecond
  leap : t.inLeapSecond = true → t.secs % 60 = 59

instance (t : Instant) : Decidable t.Shown :=
  decidable_of_iff
    (Rfc3339.read.minSecs ≤ t.secs ∧ t.secs ≤ Rfc3339.read.maxSecs ∧ t.nanos < 2 * nanosPerSecond ∧
      (t.inLeapSecond = true → t.secs % 60 = 59))
    ⟨fun ⟨h₁, h₂, h₃, h₄⟩ => ⟨h₁, h₂, h₃, h₄⟩, fun ⟨h₁, h₂, h₃, h₄⟩ => ⟨h₁, h₂, h₃, h₄⟩⟩

end Instant

namespace Field

/-! ## Digits -/

theorem isDigit_of_mem_padded {w n : Nat} {c : Char} (hc : c ∈ padded w n) : isDigit c = true :=
  Text.isDigit_of_mem_padded hc

/-- Where the digits stand among the characters. -/
theorem toNat_of_isDigit {c : Char} (h : isDigit c = true) : '0'.toNat ≤ c.toNat ∧ c.toNat ≤ '9'.toNat := by
  simpa [isDigit, Char.le_def, UInt32.le_iff_toNat_le] using h

/-- A digit is no blank. -/
theorem isBlank_of_isDigit {c : Char} (h : isDigit c = true) : isBlank c = false := by
  have hlow := toNat_of_isDigit h
  have hzero : '0'.toNat = 48 := rfl
  have hnine : '9'.toNat = 57 := rfl
  simp only [isBlank, Bool.or_eq_false_iff, Bool.and_eq_false_iff, decide_eq_false_iff_not,
    beq_eq_false_iff_ne]
  omega

/-- **Digits are read as their value**, up to the greatest number of them, or to the first other character. -/
theorem number_append {width : Nat} {ds rest : List Char} (hne : ds ≠ [])
    (hdigit : ∀ c ∈ ds, isDigit c = true) (hlen : ds.length ≤ width)
    (hstop : ds.length = width ∨ ∀ c ∈ rest.head?, isDigit c = false) :
    number width (ds ++ rest) = .ok (value ds, rest) := by
  have htake : ((ds ++ rest).take width).takeWhile isDigit = ds := by
    rw [List.take_append, List.take_of_length_le hlen, List.takeWhile_append_of_pos hdigit]
    rcases hstop with rfl | hstop
    · rw [Nat.sub_self, List.take_zero, List.takeWhile_nil, List.append_nil]
    · rw [takeWhile_eq_nil, List.append_nil]
      intro c hc
      rw [List.head?_take] at hc
      split at hc
      · exact absurd hc (by simp)
      · exact hstop c hc
  obtain ⟨d, tail, rfl⟩ := List.exists_cons_of_ne_nil hne
  rw [List.cons_append, number, if_pos (hdigit d (List.mem_cons_self ..)), ← List.cons_append, htake]
  dsimp only
  rw [List.drop_left]

/-- **A number with zeros in front is read as that number.** -/
theorem number_padded {w n width : Nat} (hw : 0 < w) (hn : n < 10 ^ w) (hwidth : w ≤ width)
    {rest : List Char} (hstop : w = width ∨ ∀ c ∈ rest.head?, isDigit c = false) :
    number width (padded w n ++ rest) = .ok (n, rest) := by
  have hlen : (padded w n).length = w := length_padded hw hn
  rw [number_append (padded_ne_nil w n) (fun _ => isDigit_of_mem_padded) (by omega) (by rwa [hlen]), value,
    ofDigitChars_padded]

/-- A number begins with a digit. -/
theorem exists_padded_append (w n : Nat) (rest : List Char) :
    ∃ d tail, isDigit d = true ∧ padded w n ++ rest = d :: tail := by
  obtain ⟨d, tail, h⟩ := List.exists_cons_of_ne_nil (padded_ne_nil w n)
  refine ⟨d, tail ++ rest, isDigit_of_mem_padded (w := w) (n := n) ?_, by rw [h, List.cons_append]⟩
  rw [h]
  exact List.mem_cons_self ..

/-- There is no blank in front of a number. -/
theorem trimStart_padded (w n : Nat) (rest : List Char) :
    trimStart (padded w n ++ rest) = padded w n ++ rest := by
  obtain ⟨d, tail, hd, h⟩ := exists_padded_append w n rest
  rw [h]
  exact dropWhile_eq_self fun c hc => Option.some.inj hc ▸ isBlank_of_isDigit hd

/-- Two digits. -/
theorem twoDigits_padded {least greatest n : Nat} (hn : least ≤ n ∧ n ≤ greatest) (hgreatest : greatest < 100)
    (rest : List Char) : twoDigits least greatest (padded 2 n ++ rest) = .ok (n, rest) := by
  have hnumber : number 2 (padded 2 n ++ rest) = .ok (n, rest) :=
    number_padded Nat.two_pos (by omega) (Nat.le_refl 2) (Or.inl rfl)
  rw [twoDigits, trimStart_padded, hnumber]
  exact if_pos hn

/-! ## Years -/

/-- Any number of digits. -/
theorem longNumber_padded {w n : Nat} (hn : n < Nat.pow 2 63) {rest : List Char}
    (hstop : ∀ c ∈ rest.head?, isDigit c = false) :
    longNumber (padded w n ++ rest) = .ok (n, rest) := by
  have hnumber : number (padded w n ++ rest).length (padded w n ++ rest) = .ok (n, rest) := by
    rw [number_append (padded_ne_nil w n) (fun _ => isDigit_of_mem_padded) (by simp) (Or.inr hstop), value,
      ofDigitChars_padded]
  rw [longNumber, hnumber]
  exact if_pos hn

/-- **A year is read from its text.** -/
theorem year_yearText {y : Int} (hy : -(Nat.pow 2 31 : Int) ≤ y ∧ y < Nat.pow 2 31) {rest : List Char}
    (hstop : ∀ c ∈ rest.head?, isDigit c = false) :
    year (Instant.yearText y ++ rest) = .ok (y, rest) := by
  have hlong : longNumber (padded 4 y.natAbs ++ rest) = .ok (y.natAbs, rest) :=
    longNumber_padded (by simp only [Nat.pow_eq] at hy ⊢; omega) hstop
  rw [Instant.yearText]
  by_cases hplain : 0 ≤ y ∧ y ≤ 9999
  · -- four digits, which do not begin with a sign
    have hnumber : number 4 (padded 4 y.natAbs ++ rest) = .ok (y.natAbs, rest) :=
      number_padded (by decide) (by omega) (Nat.le_refl 4) (Or.inl rfl)
    obtain ⟨d, tail, hd, hcons⟩ := exists_padded_append 4 y.natAbs rest
    have habs : (y.natAbs : Int) = y := Int.natAbs_of_nonneg hplain.1
    rw [if_pos hplain, hcons, year, ← hcons, hnumber, Except.map]
    · dsimp only
      rw [habs]
      exact if_pos hy
    · intro r hr
      obtain rfl := (List.cons.inj hr).1
      exact absurd hd (by decide)
    · intro r hr
      obtain rfl := (List.cons.inj hr).1
      exact absurd hd (by decide)
  · rw [if_neg hplain, List.cons_append]
    by_cases hneg : y < 0
    · have habs : -(y.natAbs : Int) = y := by omega
      rw [if_pos hneg, year, hlong, Except.map]
      dsimp only
      rw [habs]
      exact if_pos hy
    · have habs : (y.natAbs : Int) = y := by omega
      rw [if_neg hneg, year, hlong, Except.map]
      dsimp only
      rw [habs]
      exact if_pos hy

/-! ## Clock readings -/

/-- **A clock reading is read from its text**, as the second of the day and whether that is a leap second. Nothing has
to be skipped before a colon. -/
theorem clock_clockText (between : List Char → List Char) (hbetween : ∀ r, between (':' :: r) = ':' :: r)
    {t : Instant} (hleap : t.inLeapSecond = true → t.secs % 60 = 59) (rest : List Char) :
    clock between (t.clockText ++ rest) = .ok ((t.secondOfDay, t.inLeapSecond), rest) := by
  have hday : 0 ≤ t.secondOfDay ∧ t.secondOfDay < 86400 := by
    rw [Instant.secondOfDay, secondsPerDay]
    omega
  have hmark (r : List Char) : mark ':' (between (':' :: r)) = .ok ((), r) := by
    rw [hbetween]
    rfl
  obtain ⟨s, hs⟩ : ∃ s, t.secondOfDay = ((s : Nat) : Int) := Int.eq_ofNat_of_zero_le hday.1
  have hlast : t.inLeapSecond = true → s % 60 = 59 := by
    intro h
    have := hleap h
    rw [Instant.secondOfDay, secondsPerDay] at hs
    omega
  have hhour (r : List Char) : twoDigits 0 23 (padded 2 (s / 3600) ++ r) = .ok (s / 3600, r) :=
    twoDigits_padded (by omega) (by decide) r
  have hminute (r : List Char) : twoDigits 0 59 (padded 2 (s / 60 % 60) ++ r) = .ok (s / 60 % 60, r) :=
    twoDigits_padded (by omega) (by decide) r
  rw [Instant.clockText, hs, Int.toNat_natCast]
  simp only [List.append_assoc, List.cons_append, clock, bind, Except.bind, hhour, hminute, hmark]
  cases h : t.inLeapSecond with
  | false =>
    have hsec : (s % 60 + 0 == 60) = false := beq_false_of_ne (by omega)
    rw [if_neg Bool.false_ne_true, twoDigits_padded (by omega) (by decide)]
    dsimp only
    rw [hsec, if_neg Bool.false_ne_true]
    have hsum : ((s / 3600 : Nat) : Int) * 3600 + ((s / 60 % 60 : Nat) : Int) * 60 + ((s % 60 + 0 : Nat) : Int)
        = s := by omega
    rw [hsum]
  | true =>
    -- it is written as the second after the last one of its minute
    have h59 := hlast h
    have hsec : (s % 60 + 1 == 60) = true := beq_iff_eq.mpr (by omega)
    rw [if_pos rfl, twoDigits_padded (by omega) (by decide)]
    dsimp only
    rw [hsec, if_pos rfl]
    have hsum : ((s / 3600 : Nat) : Int) * 3600 + ((s / 60 % 60 : Nat) : Int) * 60 + 59 = s := by omega
    rw [hsum]

end Field

namespace Rfc3339

/-- A fraction of a second with `w` digits. -/
theorem fraction_padded {w n : Nat} (hw : 0 < w) (hw' : w ≤ 9) (hn : n < 10 ^ w) {rest : List Char}
    (hstop : ∀ c ∈ rest.head?, Field.isDigit c = false) :
    fraction ('.' :: (padded w n ++ rest)) = .ok (n * 10 ^ (9 - w), rest) := by
  have hlen : (padded w n ++ rest).length - rest.length = w := by
    rw [List.length_append, length_padded hw hn, Nat.add_sub_cancel]
  rw [fraction, Field.number_padded hw hn hw' (Or.inr hstop)]
  dsimp only [bind, Except.bind]
  rw [hlen, dropWhile_eq_self hstop]
  rfl

/-- **The fraction of a second is read from its text.** -/
theorem fraction_fractionText (t : Instant) (rest : List Char) :
    fraction (t.fractionText ++ 'Z' :: rest) = .ok (t.nanos % nanosPerSecond, 'Z' :: rest) := by
  have hstop : ∀ c ∈ ('Z' :: rest).head?, Field.isDigit c = false := by
    intro c hc
    obtain rfl := Option.some.inj hc
    rfl
  have hn : t.nanos % nanosPerSecond < 1000000000 := Nat.mod_lt _ (by decide)
  rw [Instant.fractionText]
  generalize t.nanos % nanosPerSecond = n at hn
  by_cases h₀ : n = 0
  · rw [if_pos h₀, h₀]
    rfl
  rw [if_neg h₀]
  by_cases h₃ : n % 1000000 = 0
  · rw [if_pos h₃, List.cons_append, fraction_padded (by decide) (by decide) (by omega) hstop]
    have : n / 1000000 * 10 ^ (9 - 3) = n := by omega
    rw [this]
  rw [if_neg h₃]
  by_cases h₆ : n % 1000 = 0
  · rw [if_pos h₆, List.cons_append, fraction_padded (by decide) (by decide) (by omega) hstop]
    have : n / 1000 * 10 ^ (9 - 6) = n := by omega
    rw [this]
  · rw [if_neg h₆, List.cons_append, fraction_padded (by decide) (by decide) (by omega) hstop, Nat.sub_self,
      Nat.pow_zero, Nat.mul_one]

/-- The text of an instant begins with its year, in front of which there is no blank. -/
theorem trimStart_yearText (y : Int) (rest : List Char) :
    trimStart (Instant.yearText y ++ rest) = Instant.yearText y ++ rest := by
  rw [Instant.yearText]
  split
  · exact Field.trimStart_padded 4 y.natAbs rest
  · split <;> rfl

/-- The date of an instant that a clock can show is in the calendar. -/
theorem exists_ofDays_dayNumber {t : Instant} (ht : t.Shown) : (Date.ofDays t.dayNumber).Exists := by
  have hfirst : yearStart Date.minYear * 86400 ≤ t.secs := ht.first
  have hlast : t.secs ≤ yearStart (Date.maxYear + 1) * 86400 - 1 := ht.last
  refine Date.exists_ofDays ?_ ?_
  · rw [Instant.dayNumber, secondsPerDay]
    omega
  · rw [Instant.dayNumber, secondsPerDay]
    omega

/-- The instant at the date and second of the day of an instant is that instant. -/
theorem instantAt_ofDays {t : Instant} (ht : t.Shown) :
    instantAt (Date.ofDays t.dayNumber) t.secondOfDay t.inLeapSecond (t.nanos % nanosPerSecond) = .ok t := by
  have hsecs : t.dayNumber * secondsPerDay + t.secondOfDay = t.secs := by
    rw [Instant.dayNumber, Instant.secondOfDay, secondsPerDay]
    omega
  have hnanos : t.nanos % nanosPerSecond + (if t.inLeapSecond = true then nanosPerSecond else 0) = t.nanos := by
    have hlt := ht.nanos
    simp only [Instant.inLeapSecond, decide_eq_true_eq]
    rw [nanosPerSecond] at hlt ⊢
    split <;> omega
  rw [instantAt, if_pos (exists_ofDays_dayNumber ht), Instant.ofDay, Date.toDays_ofDays, hsecs, hnanos]

/-- **The text of an instant is read as that instant**, if a clock can show it. -/
theorem read_text {t : Instant} (ht : t.Shown) : read t.text = .ok t := by
  have hat := instantAt_ofDays ht
  obtain ⟨hmin, hmax, hm, hm', hd, hd'⟩ := exists_ofDays_dayNumber ht
  rw [read, Instant.text, Instant.dateText]
  generalize Date.ofDays t.dayNumber = d at *
  have hyear : -(Nat.pow 2 31 : Int) ≤ d.year ∧ d.year < Nat.pow 2 31 := by
    rw [Date.minYear] at hmin
    rw [Date.maxYear] at hmax
    rw [Nat.pow_eq]
    omega
  have hday := daysInMonth_le d.year d.month
  have hdash (r : List Char) : spacedMark '-' ('-' :: r) = .ok ((), r) := rfl
  have hseparator (r : List Char) : separator ('T' :: r) = .ok ((), r) := rfl
  have hoffset : offset (trimStart ['Z']) = .ok (0, []) := rfl
  have hstop (r : List Char) : ∀ c ∈ ('-' :: r).head?, Field.isDigit c = false := by
    intro c hc
    obtain rfl := Option.some.inj hc
    rfl
  have hend : ¬¬(trimStart []).isEmpty = true := not_not.mpr rfl
  -- the parts of the text one after the other, each in front of the others
  simp only [List.append_assoc, List.cons_append, bind, Except.bind, trimStart_yearText,
    Field.year_yearText hyear (hstop _), hdash, Field.twoDigits_padded ⟨hm, hm'⟩ (by decide),
    Field.twoDigits_padded ⟨hd, Nat.le_trans hd' hday⟩ (by decide), hseparator,
    Field.clock_clockText trimStart (fun _ => rfl) ht.leap, fraction_fractionText, hoffset, if_neg hend, hat,
    Int.sub_zero]
  exact if_pos ⟨by decide, ht.first, ht.last⟩

end Rfc3339

end RouterTelemetry.Time
