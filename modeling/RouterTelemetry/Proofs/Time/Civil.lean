import RouterTelemetry.Time.Civil
/-!
# Days and dates

The date of a day number has that day number. Main statements:

* `yearStart_yearOfDays` : a day falls in its year;
* `monthDay_spec` : the search for the month ends in the month that a day falls in;
* `toDays_ofDays` and `exists_ofDays` : the date of a day is in the calendar, and is the date of no other day;
* `toDays_inYear` : a date of the calendar falls in its year.
-/

namespace RouterTelemetry.Time

/-- The number of days of a year. -/
def daysInYear (y : Int) : Nat :=
  if isLeapYear y then 366 else 365

theorem daysInYear_le (y : Int) : daysInYear y ≤ 366 := by
  rw [daysInYear]
  split <;> omega

theorem le_daysInYear (y : Int) : 365 ≤ daysInYear y := by
  rw [daysInYear]
  split <;> omega

/-- A year ends where the next one begins. -/
theorem yearStart_add_one (y : Int) : yearStart (y + 1) = yearStart y + daysInYear y := by
  have hleap : isLeapYear y = true ↔ y % 4 = 0 ∧ (y % 100 ≠ 0 ∨ y % 400 = 0) := by
    simp [isLeapYear]
  rw [daysInYear, yearStart, yearStart]
  by_cases h : isLeapYear y
  · rw [if_pos h]
    rw [hleap] at h
    omega
  · rw [if_neg h]
    rw [hleap] at h
    omega

/-- Years begin one after the other. -/
theorem yearStart_mono {y z : Int} (h : y ≤ z) : yearStart y ≤ yearStart z := by
  rw [yearStart, yearStart]
  omega

/-- **A day falls in its year.** -/
theorem yearStart_yearOfDays (n : Int) :
    yearStart (Date.yearOfDays n) ≤ n ∧ n < yearStart (Date.yearOfDays n + 1) := by
  -- the year that the mean length of a year gives is off by one at most
  obtain ⟨y, hy⟩ : ∃ y, y = (n + 719528) * 400 / 146097 := ⟨_, rfl⟩
  have hlow : yearStart (y - 1) ≤ n := by
    rw [yearStart]
    omega
  have hhigh : n < yearStart (y + 1 + 1) := by
    rw [yearStart]
    omega
  rw [Date.yearOfDays, ← hy]
  by_cases h₁ : n < yearStart y
  · rw [if_pos h₁, Int.sub_add_cancel]
    exact ⟨hlow, h₁⟩
  · rw [if_neg h₁]
    by_cases h₂ : yearStart (y + 1) ≤ n
    · rw [if_pos h₂]
      exact ⟨h₂, hhigh⟩
    · rw [if_neg h₂]
      omega

/-- Days fall in their years one after the other. -/
theorem yearOfDays_mono {n k : Int} (h : n ≤ k) : Date.yearOfDays n ≤ Date.yearOfDays k := by
  obtain ⟨hfirst, -⟩ := yearStart_yearOfDays n
  obtain ⟨-, hlast⟩ := yearStart_yearOfDays k
  refine Int.not_lt.mp fun hlt => ?_
  have hstart := yearStart_mono (Int.add_one_le_iff.mpr hlt)
  omega

/-- No year is left out within 365 days. -/
theorem yearOfDays_le_add_one {n k : Int} (h : k ≤ n + 365) : Date.yearOfDays k ≤ Date.yearOfDays n + 1 := by
  obtain ⟨-, hlast⟩ := yearStart_yearOfDays n
  obtain ⟨hfirst, -⟩ := yearStart_yearOfDays k
  have hnext := yearStart_add_one (Date.yearOfDays n + 1)
  have hdays := le_daysInYear (Date.yearOfDays n + 1)
  refine Int.not_lt.mp fun hlt => ?_
  have hstart := yearStart_mono (Int.add_one_le_iff.mpr hlt)
  omega

/-! ## Months -/

theorem daysBeforeMonth_add_one (y : Int) {m : Nat} (hm : 1 ≤ m) :
    daysBeforeMonth y (m + 1) = daysBeforeMonth y m + daysInMonth y m := by
  obtain ⟨k, rfl⟩ := Nat.exists_eq_add_of_le' hm
  rfl

/-- The days of a year are those before December and those of December. -/
theorem daysBeforeMonth_twelve (y : Int) : daysBeforeMonth y 12 + daysInMonth y 12 = daysInYear y := by
  cases h : isLeapYear y <;> simp [daysBeforeMonth, daysInMonth, daysInYear, h]

theorem daysInMonth_le (y : Int) (m : Nat) : daysInMonth y m ≤ 31 := by
  rw [daysInMonth]
  split
  · split <;> omega
  · split <;> omega

/-- Months begin one after the other. -/
theorem daysBeforeMonth_mono (y : Int) {m n : Nat} (h : m ≤ n) : daysBeforeMonth y m ≤ daysBeforeMonth y n := by
  induction h with
  | refl => exact Nat.le_refl _
  | @step n _ ih =>
    cases n with
    | zero => exact ih
    | succ n =>
      rw [Nat.succ_eq_add_one, daysBeforeMonth_add_one y (by omega)]
      omega

/-- A month ends before its year does. -/
theorem daysBeforeMonth_add_le (y : Int) {m : Nat} (hm : 1 ≤ m) (hm' : m ≤ 12) :
    daysBeforeMonth y m + daysInMonth y m ≤ daysInYear y := by
  have hyear := daysBeforeMonth_twelve y
  rcases Nat.lt_or_eq_of_le hm' with hlt | rfl
  · have hnext := daysBeforeMonth_mono y (Nat.succ_le_of_lt hlt)
    rw [Nat.succ_eq_add_one, daysBeforeMonth_add_one y hm] at hnext
    omega
  · exact Nat.le_of_eq hyear

/-- February is the only month that is longer in some years. -/
theorem daysInMonth_eq (y : Int) (m : Nat) :
    daysInMonth y m = daysInMonth 1 m + if m = 2 ∧ isLeapYear y then 1 else 0 := by
  have hone : isLeapYear 1 = false := rfl
  unfold daysInMonth
  by_cases hm : m = 2
  · rw [if_pos hm, if_pos hm, hone]
    cases isLeapYear y <;> simp [hm]
  · simp [hm]

/-- The days before a month are those of a common year, and 29 February from March on. -/
theorem daysBeforeMonth_eq (y : Int) {m : Nat} (hm : 1 ≤ m) :
    daysBeforeMonth y m = daysBeforeMonth 1 m + if 2 < m ∧ isLeapYear y then 1 else 0 := by
  induction hm with
  | refl => rfl
  | @step m hm ih =>
    have hm' : 1 ≤ m := hm
    rw [Nat.succ_eq_add_one, daysBeforeMonth_add_one y hm', daysBeforeMonth_add_one 1 hm', ih, daysInMonth_eq y m]
    cases isLeapYear y with
    | false => simp
    | true =>
      -- 29 February is counted with February
      simp only [and_true]
      split <;> split <;> split <;> omega

namespace Date

/-- **A date of the calendar falls in its year.** -/
theorem toDays_inYear {d : Date} (h : d.Exists) :
    yearStart d.year ≤ d.toDays ∧ d.toDays < yearStart (d.year + 1) := by
  obtain ⟨-, -, hm, hm', hd, hd'⟩ := h
  have hmonth := daysBeforeMonth_add_le d.year hm hm'
  rw [yearStart_add_one, toDays]
  omega

/-- **A date comes back after 365 or 366 days**, as far as it is in the calendar again. -/
theorem toDays_add_one_year (y : Int) {m : Nat} (hm : 1 ≤ m) (d : Nat) :
    toDays ⟨y, m, d⟩ + 365 ≤ toDays ⟨y + 1, m, d⟩ ∧ toDays ⟨y + 1, m, d⟩ ≤ toDays ⟨y, m, d⟩ + 366 := by
  have hyear := yearStart_add_one y
  unfold toDays
  dsimp only
  rw [daysBeforeMonth_eq y hm, daysBeforeMonth_eq (y + 1) hm, hyear, daysInYear]
  -- 29 February lies behind the date in the first year, or before it in the second one
  grind

/-- A day of January comes back when a year is over. -/
theorem toDays_january (y : Int) (d : Nat) : toDays ⟨y + 1, 1, d⟩ = toDays ⟨y, 1, d⟩ + daysInYear y := by
  have hstart (y : Int) : daysBeforeMonth y 1 = 0 := rfl
  simp only [toDays, hstart, yearStart_add_one]
  omega

/-- **The search for the month** goes on for as long as a month is left behind, and loses no day. -/
theorem monthDay_spec (y : Int) (left : Nat) {m : Nat} (hm : 1 ≤ m) (n : Nat) :
    m ≤ (monthDay y left m n).1 ∧ (monthDay y left m n).1 ≤ m + left ∧ 1 ≤ (monthDay y left m n).2 ∧
      daysBeforeMonth y (monthDay y left m n).1 + (monthDay y left m n).2 = daysBeforeMonth y m + n + 1 ∧
      ((monthDay y left m n).1 < m + left →
        (monthDay y left m n).2 ≤ daysInMonth y (monthDay y left m n).1) := by
  induction left generalizing m n with
  | zero =>
    rw [monthDay]
    dsimp only
    omega
  | succ left ih =>
    rw [monthDay]
    by_cases hn : n < daysInMonth y m
    · rw [if_pos hn]
      dsimp only
      omega
    · -- the month is left behind, with its days
      rw [if_neg hn]
      obtain ⟨hlow, hhigh, hday, hsum, hin⟩ := ih (m := m + 1) (by omega) (n - daysInMonth y m)
      rw [daysBeforeMonth_add_one y hm] at hsum
      refine ⟨by omega, by omega, hday, by omega, fun hlt => hin (by omega)⟩

/-- The month and day of a day of a year are in the calendar. -/
theorem monthDay_of_lt {y : Int} {n : Nat} (hn : n < daysInYear y) :
    1 ≤ (monthDay y 11 1 n).1 ∧ (monthDay y 11 1 n).1 ≤ 12 ∧ 1 ≤ (monthDay y 11 1 n).2 ∧
      (monthDay y 11 1 n).2 ≤ daysInMonth y (monthDay y 11 1 n).1 ∧
      daysBeforeMonth y (monthDay y 11 1 n).1 + (monthDay y 11 1 n).2 = n + 1 := by
  obtain ⟨hlow, hhigh, hday, hsum, hin⟩ := monthDay_spec y 11 (Nat.le_refl 1) n
  have hstart : daysBeforeMonth y 1 = 0 := rfl
  rw [hstart, Nat.zero_add] at hsum
  refine ⟨hlow, hhigh, hday, ?_, hsum⟩
  rcases Nat.lt_or_eq_of_le hhigh with hlt | heq
  · exact hin hlt
  · -- December is the last month, and the days before it are known
    replace heq : (monthDay y 11 1 n).1 = 12 := heq
    have hyear := daysBeforeMonth_twelve y
    rw [heq] at hsum ⊢
    omega

/-- **The date of a day** is the date of no other day. -/
theorem toDays_ofDays (n : Int) : (ofDays n).toDays = n := by
  obtain ⟨hlow, hhigh⟩ := yearStart_yearOfDays n
  rw [yearStart_add_one] at hhigh
  obtain ⟨-, -, -, -, hsum⟩ := monthDay_of_lt (y := yearOfDays n)
    (n := (n - yearStart (yearOfDays n)).toNat) (by omega)
  rw [ofDays, toDays]
  dsimp only
  omega

/-- The month and day of the date of a day. -/
theorem ofDays_spec (n : Int) :
    (ofDays n).year = yearOfDays n ∧ 1 ≤ (ofDays n).month ∧ (ofDays n).month ≤ 12 ∧ 1 ≤ (ofDays n).day ∧
      (ofDays n).day ≤ daysInMonth (ofDays n).year (ofDays n).month := by
  obtain ⟨hlow, hhigh⟩ := yearStart_yearOfDays n
  rw [yearStart_add_one] at hhigh
  obtain ⟨hm, hm', hd, hd', -⟩ := monthDay_of_lt (y := yearOfDays n)
    (n := (n - yearStart (yearOfDays n)).toNat) (by omega)
  exact ⟨rfl, hm, hm', hd, hd'⟩

/-- The first 31 days of a year are those of January. -/
theorem month_ofDays_of_lt {n : Int} (h : n < yearStart (yearOfDays n) + 31) : (ofDays n).month = 1 := by
  obtain ⟨hlow, -⟩ := yearStart_yearOfDays n
  have hjanuary : daysInMonth (yearOfDays n) 1 = 31 := rfl
  have hday : (n - yearStart (yearOfDays n)).toNat < daysInMonth (yearOfDays n) 1 := by omega
  simp only [ofDays, monthDay, if_pos hday]

/-- **The date of a day of the calendar is in the calendar.** -/
theorem exists_ofDays {n : Int} (hmin : yearStart minYear ≤ n) (hmax : n < yearStart (maxYear + 1)) :
    (ofDays n).Exists := by
  obtain ⟨hyear, hm, hm', hd, hd'⟩ := ofDays_spec n
  obtain ⟨hlow, hhigh⟩ := yearStart_yearOfDays n
  have hfirst : minYear ≤ yearOfDays n := by
    refine Int.not_lt.mp fun hlt => ?_
    have hstart := yearStart_mono (Int.add_one_le_iff.mpr hlt)
    omega
  have hlast : yearOfDays n ≤ maxYear := by
    refine Int.not_lt.mp fun hlt => ?_
    have hstart := yearStart_mono (Int.add_one_le_iff.mpr hlt)
    omega
  rw [← hyear] at hfirst hlast
  exact ⟨hfirst, hlast, hm, hm', hd, hd'⟩

end Date

end RouterTelemetry.Time
