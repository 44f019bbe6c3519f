import RouterTelemetry.Proofs.Time.Rfc3339
/-!
# Stamps and their years

A stamp does not say its year; it is read with a year in front of it. Whatever it says, what is read lies in that
year, in a second of the calendar or in a leap second that continues one. Main statements:

* `Field.year_toString` : the year is read as what was written;
* `readStamp_inYear` : what is read lies in the year.
-/

namespace RouterTelemetry.Time

open Text

namespace Field

/-- Readers one after the other find something if each of them does. -/
theorem bind_eq_ok {ε α β : Type} {x : Except ε α} {f : α → Except ε β} {b : β}
    (h : x.bind f = .ok b) : ∃ a, x = .ok a ∧ f a = .ok b := by
  cases x with
  | error e => exact absurd h (by simp [Except.bind])
  | ok a => exact ⟨a, rfl, h⟩

theorem twoDigits_bounds {least greatest n : Nat} {s r : List Char}
    (h : twoDigits least greatest s = .ok (n, r)) : least ≤ n ∧ n ≤ greatest := by
  obtain ⟨⟨m, rest⟩, -, hrest⟩ := bind_eq_ok h
  by_cases hm : least ≤ m ∧ m ≤ greatest
  · dsimp only at hrest
    rw [if_pos hm] at hrest
    obtain ⟨rfl, -⟩ := Prod.mk.inj (Except.ok.inj hrest)
    exact hm
  · dsimp only at hrest
    rw [if_neg hm] at hrest
    exact absurd hrest (by simp)

/-- A clock shows a second of the day. -/
theorem clock_bounds {between : List Char → List Char} {second : Int} {leap : Bool} {s r : List Char}
    (h : clock between s = .ok ((second, leap), r)) : 0 ≤ second ∧ second < 86400 := by
  obtain ⟨⟨hour, s₁⟩, hhour, h⟩ := bind_eq_ok h
  obtain ⟨⟨_, s₂⟩, -, h⟩ := bind_eq_ok h
  obtain ⟨⟨minute, s₃⟩, hminute, h⟩ := bind_eq_ok h
  obtain ⟨⟨_, s₄⟩, -, h⟩ := bind_eq_ok h
  obtain ⟨⟨sec, s₅⟩, hsec, h⟩ := bind_eq_ok h
  have hhour' := twoDigits_bounds hhour
  have hminute' := twoDigits_bounds hminute
  have hsec' := twoDigits_bounds hsec
  obtain ⟨hpair, -⟩ := Prod.mk.inj (Except.ok.inj h)
  obtain ⟨rfl, -⟩ := Prod.mk.inj hpair
  by_cases hleap : sec = 60
  · subst hleap
    rw [if_pos (by rfl)]
    omega
  · rw [if_neg (by simpa using hleap)]
    omega

/-! ## Years -/

/-- A digit is not changed by being written small. -/
theorem toLower_of_isDigit {c : Char} (h : isDigit c = true) : c.toLower = c := by
  have hlow := toNat_of_isDigit h
  refine dif_neg ?_
  rintro ⟨hletter, -⟩
  have hletter' : 'A'.toNat ≤ c.toNat := hletter
  have hbehind : '9'.toNat < 'A'.toNat := by decide
  omega

/-- A month does not begin with a digit. -/
theorem monthName_of_isDigit {c : Char} (hc : isDigit c = true) (s : List Char) {m : Nat} {r : List Char} :
    monthName (c :: s) ≠ .ok (m, r) := by
  have hnone : monthNames.idxOf? (((c :: s).take 3).map Char.toLower) = none := by
    rw [List.idxOf?_eq_none_iff]
    intro hmem
    have hall : ∀ name ∈ monthNames, name.head?.any isDigit = false := by decide
    have hfirst : isDigit c.toLower = false := hall _ hmem
    rw [toLower_of_isDigit hc, hc] at hfirst
    exact Bool.noConfusion hfirst
  simp only [monthName, hnone]
  simp

/-- A year that begins with a digit has no sign. -/
theorem year_cons_of_isDigit {c : Char} (hc : isDigit c = true) (tail : List Char) :
    year (c :: tail) = ((number 4 (c :: tail)).map fun p => ((p.1 : Int), p.2)).bind fun p =>
      if -(Nat.pow 2 31 : Int) ≤ p.1 ∧ p.1 < Nat.pow 2 31 then .ok (p.1, p.2) else .error .outOfRange := by
  rw [year]
  · rfl
  · rintro rest ⟨⟩
    exact absurd hc (by decide)
  · rintro rest ⟨⟩
    exact absurd hc (by decide)

/-- A year that begins with a digit has four of them at most. -/
theorem year_of_isDigit {c : Char} {tail r r' : List Char} {n : Nat} {z : Int} (hc : isDigit c = true)
    (hn : number 4 (c :: tail) = .ok (n, r)) (h : year (c :: tail) = .ok (z, r')) : z = n ∧ r' = r := by
  rw [year_cons_of_isDigit hc, hn] at h
  obtain ⟨⟨y, rest⟩, hy, h⟩ := bind_eq_ok h
  obtain ⟨rfl, rfl⟩ := Prod.mk.inj (Except.ok.inj hy)
  dsimp only at h
  split at h
  · obtain ⟨rfl, rfl⟩ := Prod.mk.inj (Except.ok.inj h)
    exact ⟨rfl, rfl⟩
  · exact absurd h (by simp)

theorem toList_toString_natCast (n : Nat) : (toString (n : Int)).toList = Nat.toDigits 10 n := by
  show (String.ofList (Nat.toDigits 10 n)).toList = _
  rw [String.toList_ofList]

theorem toList_toString_negSucc (n : Nat) :
    (toString (Int.negSucc n)).toList = '-' :: Nat.toDigits 10 (n + 1) := by
  show ("-" ++ String.ofList (Nat.toDigits 10 (n + 1))).toList = _
  rw [String.toList_append, String.toList_ofList (l := Nat.toDigits 10 (n + 1))]
  rfl

theorem isDigit_of_mem_toDigits {n : Nat} : ∀ c ∈ Nat.toDigits 10 n, isDigit c = true :=
  fun _ hc => Nat.isDigit_of_mem_toDigits (by decide) (by decide) hc

/-- A number begins with a digit. -/
theorem exists_toDigits_eq_cons (n : Nat) : ∃ c tail, isDigit c = true ∧ Nat.toDigits 10 n = c :: tail := by
  obtain ⟨c, tail, hcons⟩ := List.exists_cons_of_ne_nil (Nat.toDigits_ne_nil (b := 10) (n := n))
  exact ⟨c, tail, isDigit_of_mem_toDigits (n := n) c (hcons ▸ List.mem_cons_self ..), hcons⟩

theorem value_toDigits (n : Nat) : value (Nat.toDigits 10 n) = n := by
  rw [value, Nat.ofDigitChars_ten_toDigits]

/-- Digits are over at a blank. -/
theorem stops_at_blank (rest : List Char) : ∀ c ∈ (' ' :: rest).head?, isDigit c = false := by
  rintro c ⟨⟩
  rfl

/-- A year of four digits at most is read as what was written. -/
theorem year_toString_of_le {y : Int} (hy : 0 ≤ y ∧ y ≤ 9999) (rest : List Char) :
    year ((toString y).toList ++ ' ' :: rest) = .ok (y, ' ' :: rest) := by
  obtain ⟨n, rfl⟩ := Int.eq_ofNat_of_zero_le hy.1
  obtain ⟨c, tail, hc, hcons⟩ := exists_toDigits_eq_cons n
  have hlen : (Nat.toDigits 10 n).length ≤ 4 := (Nat.length_toDigits_le_iff (by decide) (by decide)).mpr (by omega)
  have hnumber := number_append Nat.toDigits_ne_nil isDigit_of_mem_toDigits hlen (Or.inr (stops_at_blank rest))
  have hrange : -(Nat.pow 2 31 : Int) ≤ n ∧ (n : Int) < Nat.pow 2 31 := by
    rw [Nat.pow_eq]
    omega
  rw [value_toDigits, hcons, List.cons_append] at hnumber
  rw [toList_toString_natCast, hcons, List.cons_append, year_cons_of_isDigit hc, hnumber, Except.map,
    Except.bind]
  dsimp only
  rw [if_pos hrange]

/-- **A year is read as what was written**, unless it has more than four digits, of which some are left over. -/
theorem year_toString {y z : Int} {rest r : List Char}
    (h : year ((toString y).toList ++ ' ' :: rest) = .ok (z, r)) :
    (z = y ∧ r = ' ' :: rest) ∨ ∃ c tail, isDigit c = true ∧ r = c :: tail := by
  cases y with
  | ofNat n =>
    replace h : year ((toString (n : Int)).toList ++ ' ' :: rest) = .ok (z, r) := h
    rw [toList_toString_natCast] at h
    obtain ⟨c, tail, hc, hcons⟩ := exists_toDigits_eq_cons n
    by_cases hlen : (Nat.toDigits 10 n).length ≤ 4
    · have hnumber := number_append Nat.toDigits_ne_nil isDigit_of_mem_toDigits hlen (Or.inr (stops_at_blank rest))
      rw [value_toDigits, hcons, List.cons_append] at hnumber
      rw [hcons, List.cons_append] at h
      exact Or.inl (year_of_isDigit hc hnumber h)
    · -- the fifth digit is left over
      have hfour : ((Nat.toDigits 10 n).take 4).length = 4 := List.length_take_of_le (by omega)
      obtain ⟨d, more, hdrop⟩ := List.exists_cons_of_ne_nil
        (List.ne_nil_of_length_pos (l := (Nat.toDigits 10 n).drop 4) (by rw [List.length_drop]; omega))
      have hd : isDigit d = true :=
        isDigit_of_mem_toDigits (n := n) d (List.mem_of_mem_drop (hdrop ▸ List.mem_cons_self ..))
      have hnumber : number 4 ((Nat.toDigits 10 n).take 4 ++ ((Nat.toDigits 10 n).drop 4 ++ ' ' :: rest)) =
          .ok (value ((Nat.toDigits 10 n).take 4), (Nat.toDigits 10 n).drop 4 ++ ' ' :: rest) :=
        number_append (List.ne_nil_of_length_pos (by omega))
          (fun c hc => isDigit_of_mem_toDigits (n := n) c (List.mem_of_mem_take hc)) hfour.le (Or.inl hfour)
      rw [← List.append_assoc, List.take_append_drop, hdrop, hcons, List.cons_append] at hnumber
      rw [hcons, List.cons_append] at h
      exact Or.inr ⟨d, more ++ ' ' :: rest, hd, (year_of_isDigit hc hnumber h).2⟩
  | negSucc n =>
    rw [toList_toString_negSucc, List.cons_append] at h
    have hnumber : number (Nat.toDigits 10 (n + 1) ++ ' ' :: rest).length
        (Nat.toDigits 10 (n + 1) ++ ' ' :: rest) = .ok (n + 1, ' ' :: rest) := by
      rw [number_append Nat.toDigits_ne_nil isDigit_of_mem_toDigits (by simp) (Or.inr (stops_at_blank rest)),
        value_toDigits]
    rw [year, longNumber, hnumber] at h
    obtain ⟨⟨y, rest'⟩, hy, h⟩ := bind_eq_ok h
    dsimp only [bind, Except.bind] at hy
    split at hy
    · obtain ⟨rfl, rfl⟩ := Prod.mk.inj (Except.ok.inj hy)
      dsimp only at h
      split at h
      · obtain ⟨hz, hr⟩ := Prod.mk.inj (Except.ok.inj h)
        exact Or.inl ⟨hz.symm, hr.symm⟩
      · exact absurd h (by simp)
    · exact absurd hy (by simp [Except.map])

end Field

/-- There is no blank in front of a year. -/
theorem trimStart_toString (y : Int) (rest : List Char) :
    trimStart ((toString y).toList ++ rest) = (toString y).toList ++ rest := by
  cases y with
  | ofNat n =>
    show trimStart ((toString (n : Int)).toList ++ rest) = (toString (n : Int)).toList ++ rest
    obtain ⟨c, tail, hc, hcons⟩ := Field.exists_toDigits_eq_cons n
    rw [Field.toList_toString_natCast, hcons, List.cons_append, trimStart,
      List.dropWhile_cons_of_neg (by simp [Field.isBlank_of_isDigit hc])]
  | negSucc n =>
    rw [Field.toList_toString_negSucc]
    rfl

/-! ## What a stamp says -/

/-- What a stamp says of a time: the day of a year, and the second of the day. -/
structure Stamp where
  month : Nat
  day : Nat
  second : Int
  leap : Bool

namespace Stamp

/-- The day that a stamp says in a year. -/
def date (s : Stamp) (year : Int) : Date :=
  ⟨year, s.month, s.day⟩

/-- Reads what stands behind the year. -/
def read (s : List Char) : Except FieldError Stamp := do
  let (month, s) ← Field.monthName (trimStart s)
  let (day, s) ← Field.twoDigits 1 31 s
  let ((second, leap), s) ← Field.clock id (trimStart s)
  if s.isEmpty then .ok ⟨month, day, second, leap⟩ else .error .tooLong

/-- The instant that is read of a stamp in a year. -/
def inYear (s : Stamp) (year : Int) : Except FieldError Instant :=
  instantAt (s.date year) s.second s.leap 0

/-- A stamp says a second of the day. -/
theorem second_bounds {s : List Char} {stamp : Stamp} (h : read s = .ok stamp) :
    0 ≤ stamp.second ∧ stamp.second < 86400 := by
  obtain ⟨⟨month, s₁⟩, -, h⟩ := Field.bind_eq_ok h
  obtain ⟨⟨day, s₂⟩, -, h⟩ := Field.bind_eq_ok h
  obtain ⟨⟨⟨second, leap⟩, s₃⟩, hclock, h⟩ := Field.bind_eq_ok h
  have hsecond := Field.clock_bounds hclock
  dsimp only at h
  split at h
  · rw [← Except.ok.inj h]
    exact hsecond
  · exact absurd h (by simp)

theorem inYear_eq_ok_iff {s : Stamp} {year : Int} {t : Instant} :
    s.inYear year = .ok t ↔
      (s.date year).Exists ∧
        t = ⟨(s.date year).toDays * 86400 + s.second, if s.leap then nanosPerSecond else 0⟩ := by
  unfold inYear instantAt
  split
  · next hexists =>
    rw [Except.ok.injEq, Instant.ofDay, Nat.zero_add]
    exact ⟨fun h => ⟨hexists, h.symm⟩, fun h => h.2.symm⟩
  · next hnone => exact iff_of_false (by simp) fun h => hnone h.1

end Stamp

/-- A stamp is read with the year in front of it first, and then by itself. -/
theorem readStamp_eq (s : List Char) :
    readStamp s = (Field.year (trimStart s)).bind fun p => (Stamp.read p.2).bind fun stamp => stamp.inYear p.1 := by
  unfold readStamp Stamp.read
  simp only [bind, Except.bind]
  cases Field.year (trimStart s) with
  | error e => rfl
  | ok p =>
    dsimp only
    cases Field.monthName (trimStart p.2) with
    | error e => rfl
    | ok month =>
      dsimp only
      cases Field.twoDigits 1 31 month.2 with
      | error e => rfl
      | ok day =>
        dsimp only
        cases Field.clock id (trimStart day.2) with
        | error e => rfl
        | ok second =>
          dsimp only
          split <;> rfl

/-- **A stamp says the same in every year** that can stand in front of it. -/
theorem exists_stamp_of_readStamp {y : Int} {s : List Char} {t : Instant}
    (h : readStamp ((toString y).toList ++ ' ' :: s) = .ok t) :
    ∃ stamp, Stamp.read (' ' :: s) = .ok stamp ∧ stamp.inYear y = .ok t := by
  rw [readStamp_eq, trimStart_toString] at h
  obtain ⟨⟨z, r⟩, hyear, h⟩ := Field.bind_eq_ok h
  obtain ⟨stamp, hstamp, h⟩ := Field.bind_eq_ok h
  rcases Field.year_toString hyear with ⟨rfl, rfl⟩ | ⟨c, tail, hc, rfl⟩
  · exact ⟨stamp, hstamp, h⟩
  · -- a month cannot follow
    obtain ⟨⟨m, r'⟩, hmonth, -⟩ := Field.bind_eq_ok hstamp
    rw [trimStart, List.dropWhile_cons_of_neg (by simp [Field.isBlank_of_isDigit hc])] at hmonth
    exact absurd hmonth (Field.monthName_of_isDigit hc tail)

/-- A year of four digits at most does not stand in the way. -/
theorem readStamp_of_year {y : Int} (hy : 0 ≤ y ∧ y ≤ 9999) {s : List Char} {stamp : Stamp}
    (h : Stamp.read (' ' :: s) = .ok stamp) :
    readStamp ((toString y).toList ++ ' ' :: s) = stamp.inYear y := by
  rw [readStamp_eq, trimStart_toString, Field.year_toString_of_le hy]
  show (Stamp.read (' ' :: s)).bind _ = _
  rw [h]
  rfl

/-- **What is read of a stamp lies in the year that stands in front of it.** -/
theorem readStamp_inYear {y : Int} {stamp : List Char} {t : Instant}
    (h : readStamp ((toString y).toList ++ ' ' :: stamp) = .ok t) :
    yearStart y * 86400 ≤ t.secs ∧ t.secs < yearStart (y + 1) * 86400 ∧
      (t.nanos = 0 ∨ t.nanos = nanosPerSecond) := by
  obtain ⟨said, hread, ht⟩ := exists_stamp_of_readStamp h
  obtain ⟨hexists, rfl⟩ := Stamp.inYear_eq_ok_iff.mp ht
  have hsecond := Stamp.second_bounds hread
  have hday := Date.toDays_inYear hexists
  rw [Stamp.date] at hday ⊢
  dsimp only at hday ⊢
  refine ⟨by omega, by omega, ?_⟩
  cases said.leap
  · exact Or.inl rfl
  · exact Or.inr rfl

end RouterTelemetry.Time
