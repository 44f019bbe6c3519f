import Mathlib.Algebra.Group.Nat.Defs
import RouterTelemetry.Proofs.Text.Utf8
import RouterTelemetry.Time.Instant
/-!
# Digits and their bytes

Numbers written with zeros in front, as characters and as bytes. Main statements:

* `padded_injective` : the digits determine the number;
* `encodeUtf8_padded_lt` : among numbers of the same width the byte order is the order of the numbers;
* `decodeUtf8?_of_ascii` : bytes below 128 are well-formed text.
-/

namespace RouterTelemetry.Text

open Time.Instant (padded)

/-! ## Digits with zeros in front -/

/-- Zeros in front do not change the number that digits denote. -/
theorem ofDigitChars_padded (w n : Nat) : Nat.ofDigitChars 10 (padded w n) 0 = n := by
  have zeros : ∀ (k : Nat) (cs : List Char),
      Nat.ofDigitChars 10 (List.replicate k '0' ++ cs) 0 = Nat.ofDigitChars 10 cs 0 := by
    intro k cs
    induction k with
    | zero => rfl
    | succ k ih => simpa [List.replicate_succ, Nat.ofDigitChars_cons] using ih
  rw [padded, zeros, Nat.ofDigitChars_ten_toDigits]

/-- The digits determine the number. -/
theorem padded_injective {w a b : Nat} (h : padded w a = padded w b) : a = b := by
  rw [← ofDigitChars_padded w a, h, ofDigitChars_padded]

/-- The last digit stands behind the digits of a tenth of the number. -/
theorem padded_succ {w : Nat} (hw : 0 < w) (n : Nat) :
    padded (w + 1) n = padded w (n / 10) ++ [(n % 10).digitChar] := by
  obtain ⟨w, rfl⟩ : ∃ v, w = v + 1 := ⟨w - 1, by omega⟩
  by_cases hn : n < 10
  · rw [padded, padded, Nat.toDigits_of_lt_base hn, Nat.div_eq_of_lt hn, Nat.mod_eq_of_lt hn,
      Nat.toDigits_zero]
    simp only [List.length_cons, List.length_nil, Nat.add_sub_cancel]
    rw [← List.replicate_succ']
  · rw [padded, padded, Nat.toDigits_of_base_le (by decide) (by omega)]
    simp only [List.length_append, List.length_cons, List.length_nil, List.append_assoc]
    congr 2
    omega

/-- A number of at most `w` digits is written with exactly `w`. -/
theorem length_padded {w n : Nat} (hw : 0 < w) (hn : n < 10 ^ w) : (padded w n).length = w := by
  have h : (Nat.toDigits 10 n).length ≤ w :=
    (Nat.length_toDigits_le_iff (by decide) hw).mpr hn
  rw [padded, List.length_append, List.length_replicate]
  omega

theorem padded_ne_nil (w n : Nat) : padded w n ≠ [] := by
  rw [padded]
  exact List.append_ne_nil_of_right_ne_nil _ Nat.toDigits_ne_nil

/-- Nothing but digits is written. -/
theorem isDigit_of_mem_padded {w n : Nat} {c : Char} (hc : c ∈ padded w n) : c.isDigit := by
  rw [padded, List.mem_append] at hc
  rcases hc with h | h
  · rw [List.eq_of_mem_replicate h]
    rfl
  · exact Nat.isDigit_of_mem_toDigits (by decide) (by decide) h

/-! ## Characters of one byte -/

theorem encodeUtf8_append (s t : List Char) : encodeUtf8 (s ++ t) = encodeUtf8 s ++ encodeUtf8 t :=
  List.flatMap_append

/-- A character of one byte is written as that byte. -/
theorem encodeUtf8_of_ascii {s : List Char} (h : ∀ c ∈ s, c.toNat < 128) :
    encodeUtf8 s = s.map fun c => UInt8.ofNat c.toNat := by
  induction s with
  | nil => rfl
  | cons c s ih =>
    have hc : c.utf8Size = 1 := by
      rw [Char.utf8Size_eq_one_iff, UInt32.le_iff_toNat_le]
      exact Nat.le_of_lt_succ (h c (List.mem_cons_self ..))
    have hs : encodeUtf8 s = _ := ih fun d hd => h d (List.mem_cons_of_mem _ hd)
    rw [encodeUtf8, List.flatMap_cons, String.utf8EncodeChar_eq_singleton hc, List.map_cons, ← hs]
    rfl

/-- A character of one byte is read from that byte. -/
theorem foldl_step_of_ascii {bs : Bytes} (h : ∀ b ∈ bs, b.toNat < 128)
    (read : List (Option Char)) :
    bs.foldl Utf8.State.step ⟨read, none⟩
      = ⟨(bs.map fun b => some (Char.ofNat b.toNat)).reverse ++ read, none⟩ := by
  induction bs generalizing read with
  | nil => rfl
  | cons b bs ih =>
    have hb : b.toNat < 0x80 := h b (List.mem_cons_self ..)
    have hstep : Utf8.State.step ⟨read, none⟩ b = ⟨some (Char.ofNat b.toNat) :: read, none⟩ := by
      rw [Utf8.State.step, Utf8.State.start, Utf8.lead, if_pos hb]
    rw [List.foldl_cons, hstep, ih fun c hc => h c (List.mem_cons_of_mem _ hc)]
    simp

/-- Bytes below 128 are well-formed text. -/
theorem decodeUtf8?_of_ascii {bs : Bytes} (h : ∀ b ∈ bs, b.toNat < 128) :
    decodeUtf8? bs = some (bs.map fun b => Char.ofNat b.toNat) := by
  have hpieces : Utf8.pieces bs = bs.map fun b => some (Char.ofNat b.toNat) := by
    rw [Utf8.pieces, foldl_step_of_ascii h]
    simp [Utf8.State.finish]
  rw [decodeUtf8?, hpieces]
  clear h hpieces
  induction bs with
  | nil => rfl
  | cons b bs ih => simp [ih]

/-- The bytes of a text of one-byte characters. -/
theorem toNat_lt_of_mem_encodeUtf8 {s : List Char} (h : ∀ c ∈ s, c.toNat < 128) :
    ∀ b ∈ encodeUtf8 s, b.toNat < 128 := by
  intro b hb
  rw [encodeUtf8_of_ascii h, List.mem_map] at hb
  obtain ⟨c, hc, rfl⟩ := hb
  rw [UInt8.toNat_ofNat']
  exact Nat.lt_of_le_of_lt (Nat.mod_le _ _) (h c hc)

/-! ## The byte order of digits -/

theorem toNat_lt_of_isDigit {c : Char} (h : c.isDigit) : c.toNat < 128 := by
  simp only [Char.isDigit, Bool.and_eq_true, decide_eq_true_eq, UInt32.le_iff_toNat_le] at h
  exact Nat.lt_of_le_of_lt h.2 (by decide)

/-- Digits are written with one byte each. -/
theorem encodeUtf8_padded (w n : Nat) :
    encodeUtf8 (padded w n) = (padded w n).map fun c => UInt8.ofNat c.toNat :=
  encodeUtf8_of_ascii fun _ hc => toNat_lt_of_isDigit (isDigit_of_mem_padded hc)

/-- The bytes of the digits determine the number. -/
theorem encodeUtf8_padded_injective {w a b : Nat}
    (h : encodeUtf8 (padded w a) = encodeUtf8 (padded w b)) : a = b := by
  have hab : some (padded w a) = some (padded w b) := by
    rw [← decodeUtf8?_encodeUtf8, h, decodeUtf8?_encodeUtf8]
  exact padded_injective (Option.some.inj hab)

/-- The byte order of two texts is settled by a part in front, if it is of the same length. -/
theorem append_lt_append_of_lt {a b : Bytes} (x y : Bytes) (hlen : a.length = b.length)
    (h : a < b) : a ++ x < b ++ y := by
  induction a generalizing b with
  | nil =>
    cases b with
    | nil => exact absurd h (List.lt_irrefl _)
    | cons c b => simp at hlen
  | cons c a ih =>
    cases b with
    | nil => simp at hlen
    | cons d b =>
      rw [List.cons_append, List.cons_append, List.cons_lt_cons_iff]
      rcases List.cons_lt_cons_iff.mp h with hcd | ⟨rfl, hab⟩
      · exact Or.inl hcd
      · exact Or.inr ⟨rfl, ih (by simpa using hlen) hab⟩

/-- Among numbers of at most `w` digits the byte order is the order of the numbers. -/
theorem encodeUtf8_padded_lt {w a b : Nat} (hw : 0 < w) (hab : a < b) (hb : b < 10 ^ w) :
    encodeUtf8 (padded w a) < encodeUtf8 (padded w b) := by
  have digit : ∀ d < 10, ∀ e < 10, d < e →
      encodeUtf8 [d.digitChar] < encodeUtf8 [e.digitChar] := by decide
  -- by induction on the width: the digits but the last one settle the order, unless they are the same
  induction w generalizing a b with
  | zero => omega
  | succ w ih =>
    by_cases hw : w = 0
    · subst hw
      have one : ∀ n < 10, padded 1 n = [n.digitChar] := by decide
      rw [one a (by omega), one b (by omega)]
      exact digit a (by omega) b (by omega) hab
    · replace hw : 0 < w := by omega
      rw [padded_succ hw, padded_succ hw, encodeUtf8_append, encodeUtf8_append]
      by_cases h : a / 10 < b / 10
      · have hb' : b / 10 < 10 ^ w := by omega
        refine append_lt_append_of_lt _ _ ?_ (ih hw h hb')
        rw [encodeUtf8_padded, encodeUtf8_padded, List.length_map, List.length_map,
          length_padded hw hb', length_padded hw (by omega)]
      · have h10 : a / 10 = b / 10 := by omega
        rw [h10]
        exact List.append_left_lt (digit _ (by omega) _ (by omega) (by omega))

end RouterTelemetry.Text
