import RouterTelemetry.Text.Utf8
/-!
# Text survives as bytes

Any text is read back from its bytes. Main statements:

* `foldl_step_encodeChar` : the bytes of a character are read as that character;
* `decodeUtf8?_encodeUtf8` : the bytes of a text are read as that text.
-/

namespace RouterTelemetry.Text

namespace Utf8

variable {b : UInt8} {n : Nat} {p : Pending} {c : Char} {read : List (Option Char)}

/-- A first byte with more to come. -/
theorem step_lead (hb : b.toNat = n) (hlead : lead n = .more p) :
    State.step ⟨read, none⟩ b = ⟨read, some p⟩ := by
  rw [State.step, State.start, hb, hlead]

/-- A byte within a character. -/
theorem step_more (hb : b.toNat = n) (hn : p.least ≤ n ∧ n ≤ p.greatest) (hmissing : 1 < p.missing) :
    State.step ⟨read, some p⟩ b = ⟨read, some ⟨p.code * 64 + n % 64, p.missing - 1, 0x80, 0xBF⟩⟩ := by
  subst hb
  rw [State.step]
  dsimp only
  rw [if_pos hn, if_neg (by omega)]

/-- The last byte of a character. -/
theorem step_last (hb : b.toNat = n) (hn : p.least ≤ n ∧ n ≤ p.greatest) (hmissing : p.missing ≤ 1)
    (hcode : p.code * 64 + n % 64 = c.toNat) :
    State.step ⟨read, some p⟩ b = ⟨some c :: read, none⟩ := by
  subst hb
  rw [State.step]
  dsimp only
  rw [if_pos hn, if_pos hmissing, hcode, Char.ofNat_toNat]

theorem lead_two (h : 0xC2 ≤ n) (h' : n < 0xE0) : lead n = .more ⟨n - 0xC0, 1, 0x80, 0xBF⟩ := by
  rw [lead, if_neg (by omega), if_neg (by omega), if_pos h']

theorem lead_three (h : 0xE0 ≤ n) (h' : n < 0xF0) :
    lead n = .more ⟨n - 0xE0, 2, if n = 0xE0 then 0xA0 else 0x80, if n = 0xED then 0x9F else 0xBF⟩ := by
  rw [lead, if_neg (by omega), if_neg (by omega), if_neg (by omega), if_pos h']

theorem lead_four (h : 0xF0 ≤ n) (h' : n < 0xF5) :
    lead n = .more ⟨n - 0xF0, 3, if n = 0xF0 then 0x90 else 0x80, if n = 0xF4 then 0x8F else 0xBF⟩ := by
  rw [lead, if_neg (by omega), if_neg (by omega), if_neg (by omega), if_neg (by omega), if_pos h']

/-- **The bytes of a character are read as that character.** -/
theorem foldl_step_encodeChar (c : Char) (read : List (Option Char)) :
    (String.utf8EncodeChar c).foldl State.step ⟨read, none⟩ = ⟨some c :: read, none⟩ := by
  have hvalid : c.toNat < 0xD800 ∨ 0xDFFF < c.toNat ∧ c.toNat < 0x110000 := c.valid
  have hbyte (n : Nat) (hn : n < 256) : (UInt8.ofNat n).toNat = n := by
    rw [UInt8.toNat_ofNat', Nat.mod_eq_of_lt hn]
  have hval : c.val.toNat = c.toNat := rfl
  simp only [String.utf8EncodeChar, hval]
  by_cases h₁ : c.toNat ≤ 0x7F
  · rw [if_pos h₁, List.foldl_cons, List.foldl_nil, State.step, State.start, hbyte _ (by omega), lead,
      if_pos (by omega), Char.ofNat_toNat]
  rw [if_neg h₁]
  by_cases h₂ : c.toNat ≤ 0x7FF
  · rw [if_pos h₂, List.foldl_cons, List.foldl_cons, List.foldl_nil,
      step_lead (hbyte _ (by omega)) (lead_two (by omega) (by omega))]
    exact step_last (hbyte _ (by omega)) (by dsimp only; omega) (Nat.le_refl 1) (by dsimp only; omega)
  rw [if_neg h₂]
  by_cases h₃ : c.toNat ≤ 0xFFFF
  · rw [if_pos h₃, List.foldl_cons, List.foldl_cons, List.foldl_cons, List.foldl_nil,
      step_lead (hbyte _ (by omega)) (lead_three (by omega) (by omega)),
      step_more (hbyte _ (by omega)) (by dsimp only; split <;> split <;> omega) (Nat.lt_add_one _)]
    exact step_last (hbyte _ (by omega)) (by dsimp only; omega) (Nat.le_refl 1) (by dsimp only; omega)
  · rw [if_neg h₃, List.foldl_cons, List.foldl_cons, List.foldl_cons, List.foldl_cons, List.foldl_nil,
      step_lead (hbyte _ (by omega)) (lead_four (by omega) (by omega)),
      step_more (hbyte _ (by omega)) (by dsimp only; split <;> split <;> omega) (Nat.lt_add_of_pos_right Nat.two_pos),
      step_more (hbyte _ (by omega)) (by dsimp only; omega) (Nat.lt_add_one _)]
    exact step_last (hbyte _ (by omega)) (by dsimp only; omega) (Nat.le_refl 1) (by dsimp only; omega)

theorem foldl_step_encodeUtf8 (s : List Char) (read : List (Option Char)) :
    (encodeUtf8 s).foldl State.step ⟨read, none⟩ = ⟨(s.map some).reverse ++ read, none⟩ := by
  induction s generalizing read with
  | nil => rfl
  | cons c s ih =>
    have hcons : encodeUtf8 (c :: s) = String.utf8EncodeChar c ++ encodeUtf8 s := rfl
    rw [hcons, List.foldl_append, foldl_step_encodeChar, ih, List.map_cons, List.reverse_cons,
      List.append_assoc, List.singleton_append]

theorem pieces_encodeUtf8 (s : List Char) : pieces (encodeUtf8 s) = s.map some := by
  rw [pieces, foldl_step_encodeUtf8, State.finish, List.append_nil, List.reverse_reverse]

end Utf8

/-- **The bytes of a text are read as that text.** -/
theorem decodeUtf8?_encodeUtf8 (s : List Char) : decodeUtf8? (encodeUtf8 s) = some s := by
  rw [decodeUtf8?, Utf8.pieces_encodeUtf8, List.mapM_map]
  exact List.mapM_pure.trans (congrArg some (List.map_id' s))

end RouterTelemetry.Text
