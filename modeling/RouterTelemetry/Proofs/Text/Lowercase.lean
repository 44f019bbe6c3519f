import Mathlib.Data.List.Forall2
import RouterTelemetry.Proofs.Text.Classes
import RouterTelemetry.Proofs.Text.Trim
import RouterTelemetry.Text.Lowercase
/-!
# Lowercase forms

What the lowercase form of a text depends on. The characters that have another lowercase form lie in runs, and no form
of a member of a run lies in a run itself. Only a capital sigma looks at its neighbours, and to it a blank is as good as
the end of the text. Main statements:

* `lowercase_lowercase` : a lowercase form is its own lowercase form;
* `trim_lowercase` : whether a text is trimmed before or after makes no difference;
* `lowercase_eq_of_sameLetters` : nor does the case of its letters of the basic alphabet;
* `lowercase_eq_iff` : which texts have a lowercase form of given letters of that alphabet.
-/

namespace RouterTelemetry.Text

/-! ## Characters -/

theorem toNat_ofNat_of_isValidChar {n : Nat} (h : n.isValidChar) : (Char.ofNat n).toNat = n := by
  rw [Char.ofNat, dif_pos h]
  rfl

theorem isUpper_iff_toNat {c : Char} : c.isUpper = true ↔ 0x41 ≤ c.toNat ∧ c.toNat ≤ 0x5A := by
  show decide (c.val ≥ 0x41 ∧ c.val ≤ 0x5A) = true ↔ _
  rw [decide_eq_true_eq]
  exact Iff.rfl

/-- A capital of the basic alphabet stands thirty-two code points before its small letter. -/
theorem toLower_of_isUpper {c : Char} (h : c.isUpper = true) : c.toLower.toNat = c.toNat + 32 := by
  have hbounds := isUpper_iff_toNat.mp h
  show Char.toNat (dite (0x41 ≤ c.toNat ∧ c.toNat ≤ 0x5A) _ _) = _
  rw [dif_pos hbounds]
  show (c.val + 32).toNat = c.toNat + 32
  rw [UInt32.toNat_add]
  exact Nat.mod_eq_of_lt (show c.toNat + 32 < 2 ^ 32 by omega)

/-- Other characters are left as they are. -/
theorem toLower_of_not_isUpper {c : Char} (h : ¬ c.isUpper = true) : c.toLower = c := by
  rw [isUpper_iff_toNat] at h
  exact dif_neg h

/-- A small letter is no capital. -/
theorem not_isUpper_toLower {c : Char} (h : c.isUpper = true) : ¬ c.toLower.isUpper = true := by
  have hlow := (isUpper_iff_toNat.mp h).1
  rw [isUpper_iff_toNat, toLower_of_isUpper h]
  omega

/-! ## Runs -/

/-- First and last code point, the step between members, and the distance to their lowercase forms. -/
abbrev Run := Nat × Nat × Nat × Int

/-- Whether a code point is a member of a run. -/
def IsMember (r : Run) (n : Nat) : Prop :=
  r.1 ≤ n ∧ n ≤ r.2.1 ∧ (n - r.1) % r.2.2.1 = 0

instance (r : Run) (n : Nat) : Decidable (IsMember r n) :=
  inferInstanceAs (Decidable (_ ∧ _ ∧ _))

/-- The code point of the lowercase form of a member. -/
def formOf (r : Run) (n : Nat) : Nat :=
  ((n : Int) + r.2.2.2).toNat

/-- The range of the lowercase forms of a run. -/
def formRange (r : Run) : Nat × Nat :=
  (formOf r r.1, formOf r r.2.1)

theorem formOf_bounds {r : Run} {n : Nat} (h : IsMember r n) :
    (formRange r).1 ≤ formOf r n ∧ formOf r n ≤ (formRange r).2 := by
  obtain ⟨hlow, hhigh, -⟩ := h
  unfold formRange formOf
  constructor <;> exact Int.toNat_le_toNat (by omega)

/-- Forms are those of characters: they are no surrogates, and not beyond the last code point. -/
theorem formRange_spec : ∀ r ∈ lowercaseRuns, 0 ≤ (r.1 : Int) + r.2.2.2 ∧
    ((formRange r).2 < 0xD800 ∨ 0xDFFF < (formRange r).1 ∧ (formRange r).2 < 0x110000) := by
  decide +kernel

theorem toNat_ofNat_formOf {r : Run} (hr : r ∈ lowercaseRuns) {n : Nat} (h : IsMember r n) :
    (Char.ofNat (formOf r n)).toNat = formOf r n := by
  have hspec := (formRange_spec r hr).2
  have hbounds := formOf_bounds h
  have hvalid : (formOf r n).isValidChar := by
    unfold Nat.isValidChar
    omega
  exact toNat_ofNat_of_isValidChar hvalid

/-- Whether no lowercase form of a member of `r` is a member of `s`: it lies in front of it or behind it, or every time
between two of its members. -/
def misses (r s : Run) : Bool :=
  Nat.blt (formRange r).2 s.1 || (Nat.blt s.2.1 (formRange r).1 ||
    (Nat.beq s.2.2.1 2 && (Nat.beq r.1 r.2.1 || Nat.beq r.2.2.1 2) && !Nat.beq ((formRange r).1 % 2) (s.1 % 2)))

theorem misses_iff {r s : Run} : misses r s = true ↔
    (formRange r).2 < s.1 ∨ s.2.1 < (formRange r).1 ∨
      (s.2.2.1 = 2 ∧ (r.1 = r.2.1 ∨ r.2.2.1 = 2)) ∧ (formRange r).1 % 2 ≠ s.1 % 2 := by
  simp only [misses, Bool.or_eq_true, Bool.and_eq_true, Bool.not_eq_true', Nat.blt_eq, Nat.beq_eq, ne_eq,
    ← Bool.not_eq_true]

theorem misses_runs : (lowercaseRuns.all fun r => lowercaseRuns.all fun s => misses r s) = true := by
  decide +kernel

/-- No form of a member of a run is a member of a run. -/
theorem not_isMember_formOf {r s : Run} (hr : r ∈ lowercaseRuns) (hs : s ∈ lowercaseRuns) {n : Nat}
    (h : IsMember r n) : ¬ IsMember s (formOf r n) := by
  intro hform
  have hbounds := formOf_bounds h
  have hspec := (formRange_spec r hr).1
  obtain ⟨hlow, hhigh, hstep⟩ := h
  obtain ⟨hlow', hhigh', hstep'⟩ := hform
  have hmisses := List.all_eq_true.mp (List.all_eq_true.mp misses_runs r hr) s hs
  rcases misses_iff.mp hmisses with hfront | hbehind | ⟨⟨htwo, hsteps⟩, hparity⟩
  · omega
  · omega
  · -- members and forms follow each other by two, the forms at the other parity
    have heven : (n - r.1) % 2 = 0 := by
      rcases hsteps with hone | hsteps
      · omega
      · rwa [hsteps] at hstep
    rw [htwo] at hstep'
    unfold formRange formOf at hparity
    unfold formOf at hlow' hstep'
    dsimp only at hparity
    omega

/-! ## Characters -/

/-- The capital I with a dot, the only character with a form of two. -/
def dottedCapital : Nat := 0x130

/-- The capitals of the basic alphabet. -/
def basicCapitals : Run :=
  (0x41, 0x5A, 1, 32)

theorem isUpper_iff {c : Char} : c.isUpper = true ↔ IsMember basicCapitals c.toNat := by
  simp only [isUpper_iff_toNat, IsMember, basicCapitals, Nat.mod_one, and_true]

/-- A character that is in no run is its own lowercase form. -/
theorem lowercaseChar_eq_self {c : Char} (hdotted : c.toNat ≠ dottedCapital)
    (hruns : ∀ r ∈ lowercaseRuns, ¬ IsMember r c.toNat) : lowercaseChar c = [c] := by
  unfold lowercaseChar
  split
  · have hupper : ¬ c.isUpper := fun h => hruns basicCapitals (by decide) (isUpper_iff.mp h)
    rw [toLower_of_not_isUpper hupper]
  · rw [if_neg (show ¬ c.toNat = 0x130 from hdotted), List.find?_eq_none.mpr]
    intro r hr hfound
    simp only [Bool.and_eq_true, decide_eq_true_eq, beq_iff_eq] at hfound
    exact hruns r hr ⟨hfound.1.1, hfound.1.2, hfound.2⟩

/-- A character is its own lowercase form, or it is the capital I with a dot, or a member of a run. -/
theorem lowercaseChar_cases (c : Char) :
    lowercaseChar c = [c] ∨
      c.toNat = dottedCapital ∧ lowercaseChar c = ['i', Char.ofNat 0x307] ∨
      ∃ r ∈ lowercaseRuns, IsMember r c.toNat ∧ lowercaseChar c = [Char.ofNat (formOf r c.toNat)] := by
  unfold lowercaseChar
  split
  · by_cases hupper : c.isUpper
    · right; right
      refine ⟨basicCapitals, by decide, isUpper_iff.mp hupper, ?_⟩
      have hform : Char.ofNat (formOf basicCapitals c.toNat) = c.toLower := by
        show Char.ofNat (c.toNat + 32) = c.toLower
        rw [← toLower_of_isUpper hupper, Char.ofNat_toNat]
      rw [hform]
    · left
      rw [toLower_of_not_isUpper hupper]
  · split
    · next hdotted => exact Or.inr (Or.inl ⟨hdotted, rfl⟩)
    · split
      · next r hfound =>
        right; right
        have hmem := List.mem_of_find?_eq_some hfound
        have hin := List.find?_some hfound
        simp only [Bool.and_eq_true, decide_eq_true_eq, beq_iff_eq] at hin
        exact ⟨r, hmem, ⟨hin.1.1, hin.1.2, hin.2⟩, rfl⟩
      · exact Or.inl rfl

/-- Whether a character is its own lowercase form wherever it stands. -/
def IsLowered (c : Char) : Prop :=
  c ≠ 'Σ' ∧ lowercaseChar c = [c]

theorem forms_miss_dottedCapital : ∀ r ∈ lowercaseRuns,
    (formRange r).2 < dottedCapital ∨ dottedCapital < (formRange r).1 := by
  decide +kernel

/-- The lowercase form of a character is its own. -/
theorem isLowered_of_mem_lowercaseChar {c d : Char} (hc : c ≠ 'Σ') (h : d ∈ lowercaseChar c) : IsLowered d := by
  rcases lowercaseChar_cases c with hself | ⟨-, htwo⟩ | ⟨r, hr, hmem, hform⟩
  · rw [hself] at h
    obtain rfl := List.mem_singleton.mp h
    exact ⟨hc, hself⟩
  · rw [htwo] at h
    rcases List.mem_cons.mp h with rfl | h
    · exact ⟨by decide, by decide⟩
    · obtain rfl := List.mem_singleton.mp h
      exact ⟨by decide, lowercaseChar_eq_self (by decide) (by decide +kernel)⟩
  · rw [hform] at h
    obtain rfl := List.mem_singleton.mp h
    have hnat := toNat_ofNat_formOf hr hmem
    have hruns : ∀ s ∈ lowercaseRuns, ¬ IsMember s (Char.ofNat (formOf r c.toNat)).toNat := by
      intro s hs
      rw [hnat]
      exact not_isMember_formOf hr hs hmem
    constructor
    · intro hsigma
      -- the capital sigma is a member of a run
      refine hruns (0x3A3, 0x3AB, 1, 32) (by decide) ?_
      rw [hsigma]
      decide
    · refine lowercaseChar_eq_self ?_ hruns
      have hbounds := formOf_bounds hmem
      have hmiss := forms_miss_dottedCapital r hr
      omega

/-- Neither the members of runs nor their forms are blanks. -/
theorem runs_apart_from_blanks : ∀ r ∈ lowercaseRuns,
    Apart [(r.1, r.2.1)] blankRanges ∧ Apart [formRange r] blankRanges := by
  decide +kernel

theorem isBlank_eq_false_of_bounds {a : Nat × Nat} (h : Apart [a] blankRanges) {c : Char}
    (hc : a.1 ≤ c.toNat ∧ c.toNat ≤ a.2) : isBlank c = false := by
  rw [isBlank_eq_inRanges]
  exact inRanges_eq_false_of_apart h (inRanges_iff.mpr ⟨a, List.mem_singleton_self a, hc⟩)

/-- The lowercase form of a character is made of blanks just if the character is one. -/
theorem isBlank_of_mem_lowercaseChar {c d : Char} (h : d ∈ lowercaseChar c) : isBlank d = isBlank c := by
  rcases lowercaseChar_cases c with hself | ⟨hdotted, htwo⟩ | ⟨r, hr, hmem, hform⟩
  · rw [hself] at h
    rw [List.mem_singleton.mp h]
  · have hc : isBlank c = false :=
      isBlank_eq_false_of_bounds (a := (dottedCapital, dottedCapital)) (by decide) ⟨hdotted.ge, hdotted.le⟩
    rw [hc]
    rw [htwo] at h
    rcases List.mem_cons.mp h with rfl | h
    · decide
    · obtain rfl := List.mem_singleton.mp h
      decide
  · obtain ⟨hmembers, hforms⟩ := runs_apart_from_blanks r hr
    rw [hform] at h
    obtain rfl := List.mem_singleton.mp h
    rw [isBlank_eq_false_of_bounds hmembers ⟨hmem.1, hmem.2.1⟩]
    refine isBlank_eq_false_of_bounds hforms ?_
    rw [toNat_ofNat_formOf hr hmem]
    exact formOf_bounds hmem

theorem lowercaseChar_ne_nil (c : Char) : lowercaseChar c ≠ [] := by
  rcases lowercaseChar_cases c with h | ⟨-, h⟩ | ⟨r, -, -, h⟩ <;> simp [h]

/-- A blank is its own lowercase form. -/
theorem isLowered_of_isBlank {c : Char} (h : isBlank c = true) : IsLowered c := by
  constructor
  · rintro rfl
    exact absurd h (by decide)
  · rcases lowercaseChar_cases c with hself | ⟨hdotted, -⟩ | ⟨r, hr, hmem, -⟩
    · exact hself
    · have hc : isBlank c = false :=
        isBlank_eq_false_of_bounds (a := (dottedCapital, dottedCapital)) (by decide) ⟨hdotted.ge, hdotted.le⟩
      exact absurd (h.symm.trans hc) (by decide)
    · have hc := isBlank_eq_false_of_bounds (runs_apart_from_blanks r hr).1 ⟨hmem.1, hmem.2.1⟩
      exact absurd (h.symm.trans hc) (by decide)

/-! ## Characters between others -/

/-- The lowercase form of a character between others, those before it nearest first. -/
def formBetween (before : List Char) (c : Char) (rest : List Char) : List Char :=
  if c = 'Σ' then [if leadsToCased before && !leadsToCased rest then 'ς' else 'σ'] else lowercaseChar c

theorem lowercaseAfter_cons (before : List Char) (c : Char) (rest : List Char) :
    lowercaseAfter before (c :: rest) = formBetween before c rest ++ lowercaseAfter (c :: before) rest :=
  rfl

theorem formBetween_of_ne {c : Char} (h : c ≠ 'Σ') (before rest : List Char) :
    formBetween before c rest = lowercaseChar c := by
  rw [formBetween, if_neg h]

/-- A capital sigma has two forms. -/
theorem formBetween_sigma (before rest : List Char) :
    formBetween before 'Σ' rest = ['σ'] ∨ formBetween before 'Σ' rest = ['ς'] := by
  rw [formBetween, if_pos rfl]
  split
  · exact Or.inr rfl
  · exact Or.inl rfl

theorem isLowered_of_mem_formBetween {before rest : List Char} {c d : Char} (h : d ∈ formBetween before c rest) :
    IsLowered d := by
  by_cases hc : c = 'Σ'
  · subst hc
    rcases formBetween_sigma before rest with hform | hform
    all_goals
      rw [hform] at h
      obtain rfl := List.mem_singleton.mp h
      exact ⟨by decide, lowercaseChar_eq_self (by decide) (by decide +kernel)⟩
  · rw [formBetween_of_ne hc] at h
    exact isLowered_of_mem_lowercaseChar hc h

theorem isBlank_of_mem_formBetween {before rest : List Char} {c d : Char} (h : d ∈ formBetween before c rest) :
    isBlank d = isBlank c := by
  by_cases hc : c = 'Σ'
  · subst hc
    rcases formBetween_sigma before rest with hform | hform
    all_goals
      rw [hform] at h
      obtain rfl := List.mem_singleton.mp h
      decide
  · rw [formBetween_of_ne hc] at h
    exact isBlank_of_mem_lowercaseChar h

theorem formBetween_ne_nil (before : List Char) (c : Char) (rest : List Char) : formBetween before c rest ≠ [] := by
  by_cases hc : c = 'Σ'
  · subst hc
    rcases formBetween_sigma before rest with hform | hform <;> simp [hform]
  · rw [formBetween_of_ne hc]
    exact lowercaseChar_ne_nil c

theorem formBetween_of_isLowered {c : Char} (h : IsLowered c) (before rest : List Char) :
    formBetween before c rest = [c] := by
  rw [formBetween_of_ne h.1, h.2]

/-! ## Lowercase forms of lowercase forms -/

theorem isLowered_of_mem_lowercaseAfter {before s : List Char} : ∀ d ∈ lowercaseAfter before s, IsLowered d := by
  induction s generalizing before with
  | nil => exact fun d hd => absurd hd List.not_mem_nil
  | cons c s ih =>
    intro d hd
    rw [lowercaseAfter_cons, List.mem_append] at hd
    rcases hd with hd | hd
    · exact isLowered_of_mem_formBetween hd
    · exact ih d hd

theorem lowercaseAfter_of_isLowered {s : List Char} (h : ∀ c ∈ s, IsLowered c) (before : List Char) :
    lowercaseAfter before s = s := by
  induction s generalizing before with
  | nil => rfl
  | cons c s ih =>
    obtain ⟨hc, hs⟩ := List.forall_mem_cons.mp h
    rw [lowercaseAfter_cons, formBetween_of_isLowered hc, ih hs]
    rfl

/-- **A lowercase form is its own lowercase form.** -/
theorem lowercase_lowercase (s : List Char) : lowercase (lowercase s) = lowercase s :=
  lowercaseAfter_of_isLowered isLowered_of_mem_lowercaseAfter []

/-! ## Blanks around -/

theorem blanks_apart : Apart blankRanges caseIgnorableRanges ∧ Apart blankRanges casedRanges := by
  decide +kernel

/-- A blank is no letter, and is not passed over when letters are looked for. -/
theorem leadsToCased_of_isBlank {s : List Char} (h : ∀ c ∈ s, isBlank c = true) : leadsToCased s = false := by
  cases s with
  | nil => rfl
  | cons c s =>
    have hc := h c (List.mem_cons_self ..)
    rw [isBlank_eq_inRanges] at hc
    have hpassed : isCaseIgnorable c = false := inRanges_eq_false_of_apart blanks_apart.1 hc
    rw [leadsToCased, List.dropWhile_cons_of_neg (by simp [hpassed])]
    exact inRanges_eq_false_of_apart blanks_apart.2 hc

/-- Blanks are as good as the end. -/
theorem leadsToCased_append {b : List Char} (h : ∀ c ∈ b, isBlank c = true) (s : List Char) :
    leadsToCased (s ++ b) = leadsToCased s := by
  have hb := leadsToCased_of_isBlank h
  unfold leadsToCased at hb ⊢
  rw [List.dropWhile_append]
  cases hs : s.dropWhile isCaseIgnorable with
  | nil => exact hb
  | cons c rest => rfl

theorem lowercaseAfter_of_isBlank {b : List Char} (h : ∀ c ∈ b, isBlank c = true) (before : List Char) :
    lowercaseAfter before b = b :=
  lowercaseAfter_of_isLowered (fun c hc => isLowered_of_isBlank (h c hc)) before

/-- What stands before blanks makes no difference to what stands behind them. -/
theorem lowercaseAfter_append_before {b : List Char} (h : ∀ c ∈ b, isBlank c = true) (before s : List Char) :
    lowercaseAfter (before ++ b) s = lowercaseAfter before s := by
  induction s generalizing before with
  | nil => rfl
  | cons c s ih =>
    have hform : formBetween (before ++ b) c s = formBetween before c s := by
      unfold formBetween
      rw [leadsToCased_append h]
    rw [lowercaseAfter_cons, lowercaseAfter_cons, hform]
    show _ ++ lowercaseAfter ((c :: before) ++ b) s = _
    rw [ih]

/-- Blanks at the end stay, and make no difference to what stands before them. -/
theorem lowercaseAfter_append {b : List Char} (h : ∀ c ∈ b, isBlank c = true) (before s : List Char) :
    lowercaseAfter before (s ++ b) = lowercaseAfter before s ++ b := by
  induction s generalizing before with
  | nil => exact lowercaseAfter_of_isBlank h before
  | cons c s ih =>
    have hform : formBetween before c (s ++ b) = formBetween before c s := by
      unfold formBetween
      rw [leadsToCased_append h]
    rw [List.cons_append, lowercaseAfter_cons, lowercaseAfter_cons, hform, ih, List.append_assoc]

/-- Blanks in front stay. -/
theorem lowercaseAfter_blanks {b : List Char} (h : ∀ c ∈ b, isBlank c = true) (before s : List Char) :
    lowercaseAfter before (b ++ s) = b ++ lowercaseAfter (b.reverse ++ before) s := by
  induction b generalizing before with
  | nil => rfl
  | cons c b ih =>
    obtain ⟨hc, hb⟩ := List.forall_mem_cons.mp h
    rw [List.cons_append, lowercaseAfter_cons, formBetween_of_isLowered (isLowered_of_isBlank hc), ih hb,
      List.reverse_cons, List.append_assoc]
    rfl

/-- The lowercase form of a text between blanks. -/
theorem lowercase_between {lead trail : List Char} (hlead : ∀ c ∈ lead, isBlank c = true)
    (htrail : ∀ c ∈ trail, isBlank c = true) (s : List Char) :
    lowercase (lead ++ (s ++ trail)) = lead ++ (lowercase s ++ trail) := by
  have hreverse : ∀ c ∈ lead.reverse, isBlank c = true := fun c hc => hlead c (List.mem_reverse.mp hc)
  unfold lowercase
  rw [lowercaseAfter_blanks hlead, List.append_nil]
  have hfront := lowercaseAfter_append_before hreverse [] (s ++ trail)
  rw [List.nil_append] at hfront
  rw [hfront, lowercaseAfter_append htrail]

/-- The last character of a text has the last piece of its lowercase form. -/
theorem exists_lowercaseAfter_concat (before s : List Char) (c : Char) :
    ∃ t, lowercaseAfter before (s ++ [c]) = t ++ formBetween (s.reverse ++ before) c [] := by
  induction s generalizing before with
  | nil => exact ⟨[], by rw [List.nil_append, lowercaseAfter_cons, lowercaseAfter, List.append_nil]; rfl⟩
  | cons d s ih =>
    obtain ⟨t, ht⟩ := ih (d :: before)
    refine ⟨formBetween before d (s ++ [c]) ++ t, ?_⟩
    rw [List.cons_append, lowercaseAfter_cons, ht, List.reverse_cons, List.append_assoc, List.append_assoc]
    rfl

theorem head?_lowercase {s : List Char} (h : ∀ c ∈ s.head?, isBlank c = false) :
    ∀ c ∈ (lowercase s).head?, isBlank c = false := by
  cases s with
  | nil => exact fun c hc => absurd hc (by simp [lowercase, lowercaseAfter])
  | cons c s =>
    intro d hd
    rw [lowercase, lowercaseAfter_cons, List.head?_append_of_ne_nil _ (formBetween_ne_nil _ _ _)] at hd
    rw [isBlank_of_mem_formBetween (List.mem_of_mem_head? hd)]
    exact h c rfl

theorem getLast?_lowercase {s : List Char} (h : ∀ c ∈ s.getLast?, isBlank c = false) :
    ∀ c ∈ (lowercase s).getLast?, isBlank c = false := by
  rcases List.eq_nil_or_concat' s with rfl | ⟨s, c, rfl⟩
  · exact fun c hc => absurd hc (by simp [lowercase, lowercaseAfter])
  · intro d hd
    obtain ⟨t, ht⟩ := exists_lowercaseAfter_concat [] s c
    rw [lowercase, ht, List.getLast?_append_of_ne_nil _ (formBetween_ne_nil _ _ _)] at hd
    rw [isBlank_of_mem_formBetween (List.mem_of_mem_getLast? hd)]
    exact h c List.getLast?_concat

/-- **Whether a text is trimmed before or after makes no difference** to its lowercase form. -/
theorem trim_lowercase (s : List Char) : trim (lowercase s) = lowercase (trim s) := by
  have hlead : ∀ c ∈ s.takeWhile isBlank, isBlank c = true := fun c hc => List.mem_takeWhile_imp hc
  have htrail : ∀ c ∈ (trimStart s).rtakeWhile isBlank, isBlank c = true := fun c hc => List.mem_rtakeWhile_imp hc
  conv_lhs => rw [eq_append_trim s, lowercase_between hlead htrail, trim_append_blanks hlead htrail]
  exact trim_eq_self (head?_lowercase (head?_trim s)) (getLast?_lowercase (getLast?_trim s))

/-! ## Letters of the basic alphabet -/

/-- Whether two characters are the same up to the case of letters of the basic alphabet. -/
def SameLetter (c d : Char) : Prop :=
  c.toLower = d.toLower

/-- A capital and the small letter that belongs to it. -/
theorem toLower_bounds {c : Char} (h : c.isUpper = true) :
    (0x41 ≤ c.toNat ∧ c.toNat ≤ 0x5A) ∧ 0x61 ≤ c.toLower.toNat ∧ c.toLower.toNat ≤ 0x7A := by
  have hbounds := isUpper_iff_toNat.mp h
  rw [toLower_of_isUpper h]
  omega

/-- What is the same for a capital and its small letter only depends on the letter. -/
theorem eq_of_sameLetter {α : Type} {f : Char → α} (hf : ∀ c : Char, c.isUpper = true → f c.toLower = f c) {c d : Char}
    (h : SameLetter c d) : f c = f d := by
  have hlower (c : Char) : f c.toLower = f c := by
    by_cases hc : c.isUpper
    · exact hf c hc
    · rw [toLower_of_not_isUpper hc]
  rw [← hlower c, ← hlower d, h]

/-- The ranges of the letters. -/
def letterRanges : List (Nat × Nat) :=
  [(0x41, 0x5A), (0x61, 0x7A)]

theorem letters_apart : Apart letterRanges blankRanges ∧ Apart letterRanges caseIgnorableRanges ∧
    ∀ r ∈ letterRanges, r ∈ casedRanges := by
  decide +kernel

/-- Capitals and their small letters are letters. -/
theorem inRanges_letterRanges {c : Char} (h : c.isUpper = true) :
    inRanges letterRanges c = true ∧ inRanges letterRanges c.toLower = true := by
  obtain ⟨hupper, hlower⟩ := toLower_bounds h
  exact ⟨inRanges_iff.mpr ⟨(0x41, 0x5A), by decide, hupper⟩, inRanges_iff.mpr ⟨(0x61, 0x7A), by decide, hlower⟩⟩

theorem isBlank_eq_of_sameLetter {c d : Char} (h : SameLetter c d) : isBlank c = isBlank d := by
  refine eq_of_sameLetter (fun c hc => ?_) h
  obtain ⟨hupper, hlower⟩ := inRanges_letterRanges hc
  rw [isBlank_eq_inRanges, isBlank_eq_inRanges, inRanges_eq_false_of_apart letters_apart.1 hupper,
    inRanges_eq_false_of_apart letters_apart.1 hlower]

theorem isCaseIgnorable_eq_of_sameLetter {c d : Char} (h : SameLetter c d) : isCaseIgnorable c = isCaseIgnorable d := by
  refine eq_of_sameLetter (fun c hc => ?_) h
  obtain ⟨hupper, hlower⟩ := inRanges_letterRanges hc
  rw [isCaseIgnorable, isCaseIgnorable, inRanges_eq_false_of_apart letters_apart.2.1 hupper,
    inRanges_eq_false_of_apart letters_apart.2.1 hlower]

theorem isCased_eq_of_sameLetter {c d : Char} (h : SameLetter c d) : isCased c = isCased d := by
  have hcased {c : Char} (hc : inRanges letterRanges c = true) : isCased c = true := by
    obtain ⟨r, hr, hbounds⟩ := inRanges_iff.mp hc
    exact inRanges_iff.mpr ⟨r, letters_apart.2.2 r hr, hbounds⟩
  refine eq_of_sameLetter (fun c hc => ?_) h
  obtain ⟨hupper, hlower⟩ := inRanges_letterRanges hc
  rw [hcased hupper, hcased hlower]

theorem lowercaseChar_eq_of_sameLetter {c d : Char} (h : SameLetter c d) : lowercaseChar c = lowercaseChar d := by
  refine eq_of_sameLetter (fun c hc => ?_) h
  obtain ⟨hupper, hlower⟩ := toLower_bounds hc
  rw [lowercaseChar, lowercaseChar, if_pos (by omega), if_pos (by omega),
    toLower_of_not_isUpper (not_isUpper_toLower hc)]

theorem eq_sigma_iff_of_sameLetter {c d : Char} (h : SameLetter c d) : c = 'Σ' ↔ d = 'Σ' := by
  refine iff_of_eq (eq_of_sameLetter (f := fun c => c = 'Σ') (fun c hc => ?_) h)
  obtain ⟨hupper, hlower⟩ := toLower_bounds hc
  refine propext ⟨?_, ?_⟩
  · intro hsigma
    rw [hsigma] at hlower
    exact absurd hlower (by decide)
  · rintro rfl
    exact absurd hupper (by decide)

/-- What is dropped from two texts that only differ in the case of letters. -/
theorem forall₂_dropWhile {p : Char → Bool} (hp : ∀ c d, SameLetter c d → p c = p d) {s t : List Char}
    (h : List.Forall₂ SameLetter s t) : List.Forall₂ SameLetter (s.dropWhile p) (t.dropWhile p) := by
  induction h with
  | nil => exact .nil
  | @cons c d s t hcd hst ih =>
    rw [List.dropWhile_cons, List.dropWhile_cons, hp c d hcd]
    split
    · exact ih
    · exact .cons hcd hst

theorem leadsToCased_eq_of_sameLetters {s t : List Char} (h : List.Forall₂ SameLetter s t) :
    leadsToCased s = leadsToCased t := by
  have hrest := forall₂_dropWhile (fun _ _ => isCaseIgnorable_eq_of_sameLetter) h
  unfold leadsToCased
  generalize s.dropWhile isCaseIgnorable = s' at hrest
  generalize t.dropWhile isCaseIgnorable = t' at hrest
  cases hrest with
  | nil => rfl
  | cons hcd => exact isCased_eq_of_sameLetter hcd

theorem lowercaseAfter_eq_of_sameLetters {before before' s t : List Char}
    (hbefore : List.Forall₂ SameLetter before before') (h : List.Forall₂ SameLetter s t) :
    lowercaseAfter before s = lowercaseAfter before' t := by
  induction h generalizing before before' with
  | nil => rfl
  | @cons c d s t hcd hst ih =>
    have hform : formBetween before c s = formBetween before' d t := by
      unfold formBetween
      rw [leadsToCased_eq_of_sameLetters hbefore, leadsToCased_eq_of_sameLetters hst,
        lowercaseChar_eq_of_sameLetter hcd]
      simp only [eq_sigma_iff_of_sameLetter hcd]
    rw [lowercaseAfter_cons, lowercaseAfter_cons, hform, ih (.cons hcd hbefore)]

/-- **The case of letters makes no difference** to the lowercase form. -/
theorem lowercase_eq_of_sameLetters {s t : List Char} (h : List.Forall₂ SameLetter s t) :
    lowercase s = lowercase t :=
  lowercaseAfter_eq_of_sameLetters .nil h

theorem trim_of_sameLetters {s t : List Char} (h : List.Forall₂ SameLetter s t) :
    List.Forall₂ SameLetter (trim s) (trim t) := by
  have hblank : ∀ c d, SameLetter c d → isBlank c = isBlank d := fun _ _ => isBlank_eq_of_sameLetter
  have hstart : List.Forall₂ SameLetter (trimStart s) (trimStart t) := forall₂_dropWhile hblank h
  unfold trim trimEnd dropEndWhile
  exact List.forall₂_reverse_iff.mpr (forall₂_dropWhile hblank (List.forall₂_reverse_iff.mpr hstart))

/-! ## Words of the basic alphabet -/

/-- No other character has a lowercase form in the basic alphabet, except for one that has the form `k`. -/
theorem forms_of_basic : ∀ r ∈ lowercaseRuns,
    r = basicCapitals ∨ 0x80 ≤ (formRange r).1 ∨ formRange r = ('k'.toNat, 'k'.toNat) := by
  decide +kernel

theorem formBetween_of_lt {c : Char} (h : c.toNat < 0x80) (before rest : List Char) :
    formBetween before c rest = [c.toLower] := by
  have hsigma : c ≠ 'Σ' := by
    rintro rfl
    exact absurd h (by decide)
  rw [formBetween_of_ne hsigma, lowercaseChar, if_pos h]

theorem toNat_lt_of_lowercaseChar {c : Char} (h : ∀ d ∈ lowercaseChar c, d.toNat < 0x80 ∧ d ≠ 'k') :
    c.toNat < 0x80 := by
  rcases lowercaseChar_cases c with hself | ⟨-, htwo⟩ | ⟨r, hr, hmem, hform⟩
  · exact (h c (by simp [hself])).1
  · have hdot := (h (Char.ofNat 0x307) (by simp [htwo])).1
    exact absurd hdot (by decide)
  · obtain ⟨hlt, hk⟩ := h (Char.ofNat (formOf r c.toNat)) (by simp [hform])
    have hbounds := formOf_bounds hmem
    rw [toNat_ofNat_formOf hr hmem] at hlt
    rcases forms_of_basic r hr with rfl | hbeyond | hone
    · have hhigh : c.toNat ≤ 0x5A := hmem.2.1
      omega
    · omega
    · rw [hone] at hbounds
      have hcode : formOf r c.toNat = 'k'.toNat := Nat.le_antisymm hbounds.2 hbounds.1
      exact absurd (hcode ▸ Char.ofNat_toNat 'k') hk

theorem toNat_lt_of_formBetween {before rest : List Char} {c : Char}
    (h : ∀ d ∈ formBetween before c rest, d.toNat < 0x80 ∧ d ≠ 'k') : c.toNat < 0x80 := by
  by_cases hc : c = 'Σ'
  · subst hc
    rcases formBetween_sigma before rest with hform | hform
    · exact absurd (h 'σ' (by simp [hform])).1 (by decide)
    · exact absurd (h 'ς' (by simp [hform])).1 (by decide)
  · rw [formBetween_of_ne hc] at h
    exact toNat_lt_of_lowercaseChar h

theorem toNat_lt_of_toLower {c : Char} (h : c.toLower.toNat < 0x80) : c.toNat < 0x80 := by
  by_cases hc : c.isUpper
  · have hhigh := (toLower_bounds hc).1.2
    omega
  · rwa [toLower_of_not_isUpper hc] at h

/-- **Which texts have a lowercase form of given letters.** A text in other letters has none in these, unless it is `k`
that is asked for. -/
theorem lowercase_eq_iff {w : List Char} (hw : ∀ c ∈ w, c.toNat < 0x80 ∧ c ≠ 'k') (s : List Char) :
    lowercase s = w ↔ s.map Char.toLower = w := by
  have hafter (before : List Char) : lowercaseAfter before s = w ↔ s.map Char.toLower = w := by
    induction s generalizing before w with
    | nil => exact Iff.rfl
    | cons c s ih =>
      rw [lowercaseAfter_cons, List.map_cons]
      constructor
      · intro h
        have hform : ∀ d ∈ formBetween before c s, d.toNat < 0x80 ∧ d ≠ 'k' :=
          fun d hd => hw d (h ▸ List.mem_append_left _ hd)
        rw [formBetween_of_lt (toNat_lt_of_formBetween hform)] at h
        subst h
        have hrest := fun d hd => hw d (List.mem_append_right _ hd)
        rw [(ih hrest (c :: before)).mp rfl]
        rfl
      · intro h
        subst h
        obtain ⟨hc, hrest⟩ := List.forall_mem_cons.mp hw
        rw [formBetween_of_lt (toNat_lt_of_toLower hc.1), (ih hrest (c :: before)).mpr rfl]
        rfl
  exact hafter []

end RouterTelemetry.Text
