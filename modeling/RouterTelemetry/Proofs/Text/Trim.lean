import Mathlib.Data.List.DropRight
import RouterTelemetry.Text.Blank
/-!
# Trimming

A text is what is left of it after trimming, between blanks. Main statements:

* `eq_append_trim` : what trimming takes away;
* `trim_between` : a text between blanks, if it does not begin or end with one itself;
* `trim_append_blanks` : blanks around a text make no difference.
-/

namespace RouterTelemetry.Text

/-- Nothing is dropped from a text that begins with something else. -/
theorem dropWhile_eq_self {p : Char → Bool} {s : List Char} (h : ∀ c ∈ s.head?, p c = false) :
    s.dropWhile p = s := by
  cases s with
  | nil => rfl
  | cons c s => exact List.dropWhile_cons_of_neg (by simp [h c rfl])

/-- Nothing is taken from a text that begins with something else. -/
theorem takeWhile_eq_nil {p : Char → Bool} {s : List Char} (h : ∀ c ∈ s.head?, p c = false) :
    s.takeWhile p = [] := by
  cases s with
  | nil => rfl
  | cons c s => exact List.takeWhile_cons_of_neg (by simp [h c rfl])

/-- What is left after dropping begins with something else. -/
theorem head?_dropWhile {p : Char → Bool} {s : List Char} :
    ∀ c ∈ (s.dropWhile p).head?, p c = false := by
  intro c hc
  have h := List.head?_dropWhile_not p s
  rwa [Option.mem_def.mp hc] at h

/-- The blanks behind a text are those that trimming its end takes away. -/
theorem eq_append_trim (s : List Char) :
    s = s.takeWhile isBlank ++ (trim s ++ (trimStart s).rtakeWhile isBlank) := by
  have hend : trim s ++ (trimStart s).rtakeWhile isBlank = trimStart s :=
    List.rdropWhile_append_rtakeWhile
  rw [hend, trimStart, List.takeWhile_append_dropWhile]

/-- Nothing is left of a text if it is nothing but blanks. -/
theorem trim_eq_nil_iff {s : List Char} : trim s = [] ↔ ∀ c ∈ s, isBlank c = true := by
  constructor
  · intro h c hc
    rw [eq_append_trim s, h, List.nil_append, List.mem_append] at hc
    rcases hc with hc | hc
    · exact List.mem_takeWhile_imp hc
    · exact List.mem_rtakeWhile_imp hc
  · intro h
    rw [trim, trimStart, List.dropWhile_eq_nil_iff.mpr h]
    rfl

/-- A trimmed text does not end with a blank. -/
theorem getLast?_trim (s : List Char) : ∀ c ∈ (trim s).getLast?, isBlank c = false := by
  rw [trim, trimEnd, dropEndWhile, List.getLast?_reverse]
  exact head?_dropWhile

/-- A trimmed text does not begin with a blank. -/
theorem head?_trim (s : List Char) : ∀ c ∈ (trim s).head?, isBlank c = false := by
  intro c hc
  -- what is left of the text without the blanks in front is a part in front of it
  obtain ⟨u, hu⟩ : trim s <+: trimStart s := List.rdropWhile_prefix isBlank _
  have hne : trim s ≠ [] := by
    intro hnil
    rw [hnil] at hc
    exact absurd hc (by simp)
  refine head?_dropWhile (s := s) c ?_
  rw [← trimStart, ← hu, List.head?_append_of_ne_nil _ hne]
  exact hc

/-- A text between blanks that does not begin or end with one. -/
theorem trim_between {lead s trail : List Char} (hlead : ∀ c ∈ lead, isBlank c = true)
    (htrail : ∀ c ∈ trail, isBlank c = true) (hne : s ≠ [])
    (hhead : ∀ c ∈ s.head?, isBlank c = false) (hlast : ∀ c ∈ s.getLast?, isBlank c = false) :
    trim (lead ++ (s ++ trail)) = s := by
  have hstart : trimStart (lead ++ (s ++ trail)) = s ++ trail := by
    rw [trimStart, List.dropWhile_append_of_pos hlead]
    refine dropWhile_eq_self ?_
    rwa [List.head?_append_of_ne_nil _ hne]
  have hend : (s ++ trail).reverse.dropWhile isBlank = s.reverse := by
    rw [List.reverse_append, List.dropWhile_append_of_pos (by simpa using htrail)]
    refine dropWhile_eq_self ?_
    rwa [List.head?_reverse]
  rw [trim, hstart, trimEnd, dropEndWhile, hend, List.reverse_reverse]

/-- A text that neither begins nor ends with a blank. -/
theorem trim_eq_self {s : List Char} (hhead : ∀ c ∈ s.head?, isBlank c = false)
    (hlast : ∀ c ∈ s.getLast?, isBlank c = false) : trim s = s := by
  by_cases hne : s = []
  · rw [hne]
    rfl
  · have hnone : ∀ c ∈ ([] : List Char), isBlank c = true := by simp
    have h := trim_between hnone hnone hne hhead hlast
    rwa [List.nil_append, List.append_nil] at h

/-- Blanks around a text make no difference to what is left. -/
theorem trim_append_blanks {lead trail : List Char} (hlead : ∀ c ∈ lead, isBlank c = true)
    (htrail : ∀ c ∈ trail, isBlank c = true) (s : List Char) : trim (lead ++ (s ++ trail)) = trim s := by
  by_cases hnil : trim s = []
  · have hblank := trim_eq_nil_iff.mp hnil
    rw [hnil, trim_eq_nil_iff]
    intro c hc
    simp only [List.mem_append] at hc
    rcases hc with hc | hc | hc
    · exact hlead c hc
    · exact hblank c hc
    · exact htrail c hc
  · -- there are blanks around what is left of the text itself
    have hfront : ∀ c ∈ lead ++ s.takeWhile isBlank, isBlank c = true := by
      intro c hc
      rcases List.mem_append.mp hc with hc | hc
      · exact hlead c hc
      · exact List.mem_takeWhile_imp hc
    have hback : ∀ c ∈ (trimStart s).rtakeWhile isBlank ++ trail, isBlank c = true := by
      intro c hc
      rcases List.mem_append.mp hc with hc | hc
      · exact List.mem_rtakeWhile_imp hc
      · exact htrail c hc
    have hsplit : lead ++ (s ++ trail) =
        lead ++ s.takeWhile isBlank ++ (trim s ++ ((trimStart s).rtakeWhile isBlank ++ trail)) := by
      conv_lhs => rw [eq_append_trim s]
      simp only [List.append_assoc]
    rw [hsplit]
    exact trim_between hfront hback hnil (head?_trim s) (getLast?_trim s)

end RouterTelemetry.Text
