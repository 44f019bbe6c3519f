import RouterTelemetry.Proofs.Text.Words
import RouterTelemetry.Proofs.Time.Stamp
import RouterTelemetry.Text.Word
/-!
# Stamps as they are written

A stamp is the name of the month, the day of the month in two columns and the time of day, without a year. Main
statements:

* `Field.monthName_monthText` : the name of a month is read as that month;
* `Instant.normalizeBlanks_stampText` : the blank in front of a day of one digit does not matter;
* `Stamp.read_stampText` : a stamp is read as the day and the second that it was written for.
-/

namespace RouterTelemetry.Time

open Text
open Instant (padded)

/-- The names of the months, as they are written. -/
def monthTexts : List (List Char) :=
  ["Jan", "Feb", "Mar", "Apr", "May", "Jun", "Jul", "Aug", "Sep", "Oct", "Nov", "Dec"].map String.toList

/-- The name of a month (1 to 12). -/
def monthText (m : Nat) : List Char :=
  (monthTexts[m - 1]?).getD []

namespace Instant

/-- The blanks in front of a day of the month in two columns. -/
def dayColumn (day : Nat) : List Char :=
  List.replicate (2 - (Nat.toDigits 10 day).length) ' '

/-- What a clock shows at an instant, without the year: month, day and time of day. -/
def stampText (t : Instant) : List Char :=
  monthText (Date.ofDays t.dayNumber).month ++
    ' ' :: (dayColumn (Date.ofDays t.dayNumber).day ++ (Nat.toDigits 10 (Date.ofDays t.dayNumber).day ++
      ' ' :: t.clockText))

end Instant

/-! ## Months -/

/-- The name of a month is three letters, which are its name among those that are read. -/
theorem monthText_spec {m : Nat} (hm : 1 ≤ m) (hm' : m ≤ 12) :
    (monthText m).length = 3 ∧ (∀ c ∈ monthText m, isWord c = true) ∧ (∀ c ∈ monthText m, isBlank c = false) ∧
      Field.monthNames.idxOf? ((monthText m).map Char.toLower) = some (m - 1) := by
  have hall : ∀ m ∈ List.range' 1 12,
      (monthText m).length = 3 ∧ (monthText m).all isWord = true ∧ (monthText m).all (!isBlank ·) = true ∧
        Field.monthNames.idxOf? ((monthText m).map Char.toLower) = some (m - 1) := by decide +kernel
  obtain ⟨hlen, hword, hsolid, hname⟩ := hall m (List.mem_range'_1.mpr ⟨hm, by omega⟩)
  exact ⟨hlen, List.all_eq_true.mp hword, by simpa using hsolid, hname⟩

theorem unbroken_monthText {m : Nat} (hm : 1 ≤ m) (hm' : m ≤ 12) : Unbroken (monthText m) := by
  obtain ⟨hlen, -, hsolid, -⟩ := monthText_spec hm hm'
  refine ⟨?_, hsolid⟩
  rintro hnil
  rw [hnil] at hlen
  exact absurd hlen (by decide)

namespace Field

/-- **The name of a month is read as that month.** -/
theorem monthName_monthText {m : Nat} (hm : 1 ≤ m) (hm' : m ≤ 12) (rest : List Char) :
    monthName (monthText m ++ rest) = .ok (m, rest) := by
  obtain ⟨hlen, -, -, hname⟩ := monthText_spec hm hm'
  unfold monthName
  dsimp only
  rw [List.take_left' hlen, List.drop_left' hlen, hname]
  dsimp only
  rw [Nat.sub_add_cancel hm]

theorem unbroken_toDigits (n : Nat) : Unbroken (Nat.toDigits 10 n) :=
  ⟨Nat.toDigits_ne_nil, fun c hc => isBlank_of_isDigit (isDigit_of_mem_toDigits c hc)⟩

/-- A number of two digits at most, with a blank in front of it. -/
theorem twoDigits_toDigits {least greatest n : Nat} (hn : least ≤ n ∧ n ≤ greatest) (hgreatest : greatest < 100)
    (rest : List Char) :
    twoDigits least greatest (' ' :: (Nat.toDigits 10 n ++ ' ' :: rest)) = .ok (n, ' ' :: rest) := by
  have hlen : (Nat.toDigits 10 n).length ≤ 2 := (Nat.length_toDigits_le_iff (by decide) (by decide)).mpr (by omega)
  have hnumber := number_append Nat.toDigits_ne_nil isDigit_of_mem_toDigits hlen (Or.inr (stops_at_blank rest))
  rw [value_toDigits] at hnumber
  have htrim : trimStart (' ' :: (Nat.toDigits 10 n ++ ' ' :: rest)) = Nat.toDigits 10 n ++ ' ' :: rest :=
    (unbroken_toDigits n).trimStart_append (b := [' ']) gap_blank.blank (' ' :: rest)
  rw [twoDigits, htrim, hnumber]
  exact if_pos hn

end Field

/-! ## The words of a stamp -/

namespace Instant

/-- A time of day has no blank in it. -/
theorem unbroken_clockText (t : Instant) : Unbroken t.clockText := by
  have hdigit {w n : Nat} {c : Char} (hc : c ∈ padded w n) : isBlank c = false :=
    Field.isBlank_of_isDigit (Field.isDigit_of_mem_padded hc)
  refine ⟨by simp [clockText], fun c hc => ?_⟩
  simp only [clockText, List.mem_append, List.mem_cons] at hc
  rcases hc with hc | rfl | hc | rfl | hc
  · exact hdigit hc
  · rfl
  · exact hdigit hc
  · rfl
  · exact hdigit hc

theorem gap_dayColumn (day : Nat) : Gap (' ' :: dayColumn day) := by
  refine ⟨by simp, fun c hc => ?_⟩
  rcases List.mem_cons.mp hc with rfl | hc
  · rfl
  · rw [List.eq_of_mem_replicate hc]
    rfl

/-- **The second blank in front of a day of one digit does not matter.** -/
theorem normalizeBlanks_stampText (t : Instant) :
    normalizeBlanks t.stampText =
      monthText (Date.ofDays t.dayNumber).month ++
        ' ' :: (Nat.toDigits 10 (Date.ofDays t.dayNumber).day ++ ' ' :: t.clockText) := by
  obtain ⟨-, hm, hm', -, -⟩ := Date.ofDays_spec t.dayNumber
  have hsplit : t.stampText = monthText (Date.ofDays t.dayNumber).month ++
      ((' ' :: dayColumn (Date.ofDays t.dayNumber).day) ++
        (Nat.toDigits 10 (Date.ofDays t.dayNumber).day ++ ([' '] ++ t.clockText))) := by
    simp only [stampText, List.cons_append, List.nil_append]
  rw [hsplit, normalizeBlanks_append (unbroken_monthText hm hm') (gap_dayColumn _) (Field.unbroken_toDigits _)
    gap_blank t.unbroken_clockText]

end Instant

/-- **A stamp is read as the day and the second that it was written for.** -/
theorem Stamp.read_stampText {t : Instant} (hleap : t.inLeapSecond = true → t.secs % 60 = 59) :
    Stamp.read (' ' :: normalizeBlanks t.stampText) =
      .ok ⟨(Date.ofDays t.dayNumber).month, (Date.ofDays t.dayNumber).day, t.secondOfDay, t.inLeapSecond⟩ := by
  obtain ⟨-, hm, hm', hd, hd'⟩ := Date.ofDays_spec t.dayNumber
  have hday := daysInMonth_le (Date.ofDays t.dayNumber).year (Date.ofDays t.dayNumber).month
  have hmonth (rest : List Char) : trimStart (' ' :: (monthText (Date.ofDays t.dayNumber).month ++ rest)) =
      monthText (Date.ofDays t.dayNumber).month ++ rest :=
    (unbroken_monthText hm hm').trimStart_append (b := [' ']) gap_blank.blank rest
  have hclock : trimStart (' ' :: t.clockText) = t.clockText ++ [] := by
    rw [← t.unbroken_clockText.trimStart_append (b := [' ']) gap_blank.blank [], List.append_nil]
    rfl
  rw [Instant.normalizeBlanks_stampText, read]
  simp only [bind, Except.bind, hmonth, Field.monthName_monthText hm hm',
    Field.twoDigits_toDigits ⟨hd, Nat.le_trans hd' hday⟩ (by decide), hclock,
    Field.clock_clockText id (fun _ => rfl) hleap]
  rfl

end RouterTelemetry.Time
