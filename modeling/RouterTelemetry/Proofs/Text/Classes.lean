import Mathlib.Order.Basic
import RouterTelemetry.Text.Blank
import RouterTelemetry.Text.Ranges
/-!
# Character classes

Classes that are given by ranges of code points. Main statements:

* `inRanges_iff` : what it means to be in a class;
* `inRanges_eq_false_of_apart` : classes whose ranges lie apart have no character in common;
* `isBlank_eq_inRanges` : blanks are such a class.
-/

namespace RouterTelemetry.Text

theorem inRanges_iff {ranges : List (Nat × Nat)} {c : Char} :
    inRanges ranges c = true ↔ ∃ r ∈ ranges, r.1 ≤ c.toNat ∧ c.toNat ≤ r.2 := by
  simp only [inRanges, List.any_eq_true, Bool.and_eq_true, decide_eq_true_eq]

/-- Whether no code point lies in ranges of both lists. -/
def Apart (as bs : List (Nat × Nat)) : Prop :=
  ∀ a ∈ as, ∀ b ∈ bs, a.2 < b.1 ∨ b.2 < a.1

instance (as bs : List (Nat × Nat)) : Decidable (Apart as bs) :=
  inferInstanceAs (Decidable (∀ a ∈ as, ∀ b ∈ bs, a.2 < b.1 ∨ b.2 < a.1))

/-- A character of one class is in no class that lies apart. -/
theorem inRanges_eq_false_of_apart {as bs : List (Nat × Nat)} (h : Apart as bs) {c : Char}
    (hc : inRanges as c = true) : inRanges bs c = false := by
  obtain ⟨a, ha, hlow, hhigh⟩ := inRanges_iff.mp hc
  by_contra hin
  obtain ⟨b, hb, hlow', hhigh'⟩ := inRanges_iff.mp (Bool.not_eq_false _ ▸ hin)
  have hab := h a ha b hb
  omega

/-- The ranges of the blanks. -/
def blankRanges : List (Nat × Nat) := [
  (9, 13), (0x20, 0x20), (0x85, 0x85), (0xA0, 0xA0), (0x1680, 0x1680), (0x2000, 0x200A), (0x2028, 0x2029),
  (0x202F, 0x202F), (0x205F, 0x205F), (0x3000, 0x3000)]

theorem isBlank_eq_inRanges (c : Char) : isBlank c = inRanges blankRanges c := by
  rw [Bool.eq_iff_iff, inRanges_iff]
  simp only [isBlank, blankRanges, Bool.or_eq_true, Bool.and_eq_true, decide_eq_true_eq, beq_iff_eq, List.mem_cons,
    List.not_mem_nil, or_false, exists_eq_or_imp, exists_eq_left]
  omega

end RouterTelemetry.Text
