import RouterTelemetry.Config.Load
/-!
# Merging settings

What a later source changes in the settings of an earlier one. Main statements:

* `Value.mergeEntries_singleton` : a source of one setting changes that one;
* `Value.merge_eq_or` : a value stands in the place of what was there, unless both are tables;
* `Value.isSome_toJson?_merge` : values that can be written as JSON still can.
-/

namespace RouterTelemetry.Config.Value

theorem mergeEntries_nil (a : List (String × Value)) : mergeEntries a [] = a := by
  rw [mergeEntries]

theorem mergeEntries_cons (a : List (String × Value)) (k : String) (w : Value) (rest : List (String × Value)) :
    mergeEntries a ((k, w) :: rest) =
      mergeEntries (Table.put k ((Table.find? k a).elim w (merge · w)) a) rest := by
  rw [mergeEntries]
  cases Table.find? k a <;> rfl

/-- A source of one setting changes that one. -/
theorem mergeEntries_singleton (a : List (String × Value)) (k : String) (w : Value) :
    mergeEntries a [(k, w)] = Table.put k ((Table.find? k a).elim w (merge · w)) a := by
  rw [mergeEntries_cons, mergeEntries_nil]

theorem merge_table (a b : List (String × Value)) : merge (.table a) (.table b) = .table (mergeEntries a b) := by
  rw [merge]

/-- A value stands in the place of what was there, unless both are tables. -/
theorem merge_eq_or (v w : Value) : merge v w = w ∨ ∃ a b, v = .table a ∧ w = .table b := by
  by_cases h : ∃ a b, v = .table a ∧ w = .table b
  · exact Or.inr h
  · rw [merge]
    · exact Or.inl rfl
    · exact fun a b hv hw => h ⟨a, b, hv, hw⟩

/-! ## Values as JSON -/

/-- Entries can be written as JSON if each of their values can. -/
theorem isSome_entriesToJson?_iff {es : List (String × Value)} :
    (entriesToJson? es).isSome ↔ ∀ e ∈ es, (toJson? e.2).isSome := by
  induction es with
  | nil => simp [entriesToJson?]
  | cons e rest ih =>
    obtain ⟨k, v⟩ := e
    rw [List.forall_mem_cons, ← ih, entriesToJson?]
    cases toJson? v <;> cases entriesToJson? rest <;> simp

theorem toJson?_table (es : List (String × Value)) :
    toJson? (.table es) = (entriesToJson? es).map .object := by
  rw [toJson?]

mutual

/-- Values that can be written as JSON can be after a merge. -/
theorem isSome_toJson?_merge (v w : Value) (hv : v.toJson?.isSome) (hw : w.toJson?.isSome) :
    (merge v w).toJson?.isSome := by
  rcases merge_eq_or v w with h | ⟨a, b, rfl, rfl⟩
  · rwa [h]
  · rw [toJson?_table, Option.isSome_map, isSome_entriesToJson?_iff] at hv hw
    rw [merge_table, toJson?_table, Option.isSome_map, isSome_entriesToJson?_iff]
    exact isSome_toJson?_mergeEntries a b hv hw
termination_by sizeOf w

theorem isSome_toJson?_mergeEntries (a b : List (String × Value)) (ha : ∀ e ∈ a, (toJson? e.2).isSome)
    (hb : ∀ e ∈ b, (toJson? e.2).isSome) : ∀ e ∈ mergeEntries a b, (toJson? e.2).isSome := by
  match b with
  | [] => rwa [mergeEntries_nil]
  | (k, w) :: rest =>
    obtain ⟨hw, hrest⟩ := List.forall_mem_cons.mp hb
    rw [mergeEntries_cons]
    refine isSome_toJson?_mergeEntries _ rest (fun e he => ?_) hrest
    rcases Table.mem_put he with rfl | he
    · cases hk : Table.find? k a with
      | none => exact hw
      | some v => exact isSome_toJson?_merge v w (ha _ (Table.mem_of_find?_eq_some hk)) hw
    · exact ha e he
termination_by sizeOf b

end

end RouterTelemetry.Config.Value
