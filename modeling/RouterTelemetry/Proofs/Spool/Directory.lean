import RouterTelemetry.Proofs.Spool.Names
import RouterTelemetry.Spool.Basic
/-!
# Directories

What stands under a name after a change of a directory. Main statements:

* `get?_put`, `get?_erase` : one equation for each change;
* `Ordered.put`, `Ordered.erase` : the entries stay in strict order of their names;
* `Ordered.mem_batches` : the batches of an ordered directory are what stands under the names of batches.
-/

namespace RouterTelemetry.Spool

open Text (Bytes)

namespace Directory

/-! ## What stands under a name -/

theorem lookup_cons_eq_ite (n m : Name) (e : Entry) (l : List (Name × Entry)) :
    ((m, e) :: l).lookup n = if n = m then some e else l.lookup n := by
  rw [List.lookup_cons]
  by_cases h : n = m
  · rw [if_pos h, beq_iff_eq.mpr h]
  · rw [if_neg h, beq_false_of_ne h]

theorem lookup_insert (name : Name) (e : Entry) (l : List (Name × Entry)) (n : Name) :
    (insert name e l).lookup n = if n = name then some e else l.lookup n := by
  induction l with
  | nil => rw [insert, lookup_cons_eq_ite]
  | cons x l ih =>
    obtain ⟨m, f⟩ := x
    rw [insert]
    by_cases hm : m = name
    · rw [if_pos hm, lookup_cons_eq_ite, lookup_cons_eq_ite, hm]
      split <;> rfl
    · rw [if_neg hm]
      split
      · rw [lookup_cons_eq_ite]
      · rw [lookup_cons_eq_ite, lookup_cons_eq_ite, ih]
        by_cases h : n = m
        · rw [if_pos h, if_pos h, if_neg (h ▸ hm)]
        · rw [if_neg h, if_neg h]

/-- What stands under a name after an entry was put. -/
@[simp]
theorem get?_put (d : Directory) (name : Name) (e : Entry) (n : Name) :
    (d.put name e).get? n = if n = name then some e else d.get? n :=
  lookup_insert name e d.entries n

theorem lookup_filter_ne (name : Name) (l : List (Name × Entry)) (n : Name) :
    (l.filter (·.1 != name)).lookup n = if n = name then none else l.lookup n := by
  induction l with
  | nil => rw [List.filter_nil, List.lookup_nil, ite_self]
  | cons x l ih =>
    obtain ⟨m, f⟩ := x
    rw [List.filter_cons, lookup_cons_eq_ite]
    by_cases hm : m = name
    · rw [if_neg (by simp [hm]), ih, hm]
      split <;> rfl
    · rw [if_pos (by simp [hm]), lookup_cons_eq_ite, ih]
      by_cases h : n = m
      · rw [if_pos h, if_pos h, if_neg (h ▸ hm)]
      · rw [if_neg h, if_neg h]

/-- What stands under a name after an entry was erased. -/
@[simp]
theorem get?_erase (d : Directory) (name n : Name) :
    (d.erase name).get? n = if n = name then none else d.get? n :=
  lookup_filter_ne name d.entries n

/-! ## Order -/

/-- The entries stand in strict order of their names. -/
def Ordered (d : Directory) : Prop :=
  d.entries.Pairwise fun a b => a.1 < b.1

instance (d : Directory) : Decidable d.Ordered :=
  inferInstanceAs (Decidable (d.entries.Pairwise fun a b => a.1 < b.1))

/-- The names after an insertion. -/
theorem fst_of_mem_insert {name : Name} {e : Entry} {l : List (Name × Entry)} {x : Name × Entry}
    (hx : x ∈ insert name e l) : x.1 = name ∨ x ∈ l := by
  induction l with
  | nil => simp_all [insert]
  | cons y l ih =>
    obtain ⟨m, f⟩ := y
    rw [insert] at hx
    split at hx
    · rcases List.mem_cons.mp hx with rfl | h
      · exact Or.inl rfl
      · exact Or.inr (List.mem_cons_of_mem _ h)
    · split at hx
      · rcases List.mem_cons.mp hx with rfl | h
        · exact Or.inl rfl
        · exact Or.inr h
      · rcases List.mem_cons.mp hx with rfl | h
        · exact Or.inr (List.mem_cons_self ..)
        · exact (ih h).imp id (List.mem_cons_of_mem _)

theorem pairwise_insert (name : Name) (e : Entry) {l : List (Name × Entry)}
    (h : l.Pairwise fun a b => a.1 < b.1) : (insert name e l).Pairwise fun a b => a.1 < b.1 := by
  induction l with
  | nil => simp [insert]
  | cons y l ih =>
    obtain ⟨m, f⟩ := y
    rw [List.pairwise_cons] at h
    obtain ⟨hm, hl⟩ := h
    rw [insert]
    split
    · next heq => exact List.pairwise_cons.mpr ⟨heq ▸ hm, hl⟩
    · next hne =>
      split
      · next hle =>
        -- all names so far are later than the new one
        have hlt : name < m := Std.lt_of_le_of_ne ((Name.le_iff name m).mp hle) (Ne.symm hne)
        refine List.pairwise_cons.mpr ⟨fun x hx => ?_, List.pairwise_cons.mpr ⟨hm, hl⟩⟩
        rcases List.mem_cons.mp hx with rfl | h
        · exact hlt
        · exact List.lt_trans hlt (hm x h)
      · next hle =>
        -- the new entry goes further back, where every name is later than `m`
        have hlt : m < name := List.not_le.mp (mt (Name.le_iff name m).mpr hle)
        refine List.pairwise_cons.mpr ⟨fun x hx => ?_, ih hl⟩
        rcases fst_of_mem_insert hx with h | h
        · exact h ▸ hlt
        · exact hm x h

theorem Ordered.put {d : Directory} (h : d.Ordered) (name : Name) (e : Entry) :
    (d.put name e).Ordered :=
  pairwise_insert name e h

theorem Ordered.erase {d : Directory} (h : d.Ordered) (name : Name) : (d.erase name).Ordered :=
  List.Pairwise.filter _ h

/-- No operation disturbs the order. -/
theorem Ordered.apply {d : Directory} (h : d.Ordered) (op : Operation) : (d.apply op).Ordered := by
  cases op with
  | create name => exact h.put _ _
  | append name bytes =>
    rw [Directory.apply]
    split
    · exact h.put _ _
    · exact h
  | sync name => exact h
  | rename name newName =>
    rw [Directory.apply]
    split
    · exact (h.erase _).put _ _
    · exact h
  | remove name => exact h.erase _

theorem Ordered.applyAll {d : Directory} (h : d.Ordered) (ops : List Operation) :
    (d.applyAll ops).Ordered := by
  induction ops generalizing d with
  | nil => exact h
  | cons op ops ih => exact ih (h.apply op)

/-- In an ordered directory each name stands for one entry. -/
theorem Ordered.mem_entries_iff {d : Directory} (h : d.Ordered) (n : Name) (e : Entry) :
    (n, e) ∈ d.entries ↔ d.get? n = some e := by
  obtain ⟨l⟩ := d
  rw [get?]
  induction l with
  | nil => simp
  | cons y l ih =>
    obtain ⟨m, f⟩ := y
    rw [Ordered, List.pairwise_cons] at h
    obtain ⟨hm, hl⟩ := h
    rw [List.mem_cons, lookup_cons_eq_ite, Prod.mk.injEq]
    by_cases hn : n = m
    · subst hn
      have hnot : (n, e) ∉ l := fun hmem => List.lt_irrefl n (hm (n, e) hmem)
      rw [if_pos rfl, Option.some.injEq]
      simp [hnot, eq_comm]
    · rw [if_neg hn, ← ih hl]
      simp [hn]

/-! ## The batches -/

theorem mem_filterMap_batchOf? {l : List (Name × Entry)} {b : StoredBatch} :
    b ∈ l.filterMap batchOf? ↔ (b.name, .file b.content) ∈ l ∧ isBatchName b.name := by
  rw [List.mem_filterMap]
  constructor
  · rintro ⟨⟨n, e⟩, hmem, he⟩
    cases e with
    | directory => simp [batchOf?] at he
    | file c =>
      simp only [batchOf?, Option.ite_none_right_eq_some, Option.some.injEq] at he
      obtain ⟨hname, rfl⟩ := he
      exact ⟨hmem, hname⟩
  · rintro ⟨hmem, hname⟩
    exact ⟨_, hmem, by simp [batchOf?, hname]⟩

/-- The batches of an ordered directory. -/
theorem Ordered.mem_batches {d : Directory} (h : d.Ordered) {b : StoredBatch} :
    b ∈ d.batches ↔ d.get? b.name = some (.file b.content) ∧ isBatchName b.name := by
  rw [batches, mem_filterMap_batchOf?, h.mem_entries_iff]

/-- Each name stands for one batch. -/
theorem Ordered.eq_of_name_eq {d : Directory} (h : d.Ordered) {a b : StoredBatch} (ha : a ∈ d.batches)
    (hb : b ∈ d.batches) (hab : a.name = b.name) : a = b := by
  have ha' := (h.mem_batches.mp ha).1
  have hb' := (h.mem_batches.mp hb).1
  obtain ⟨n, c⟩ := a
  obtain ⟨m, c'⟩ := b
  simp only at hab ha' hb'
  subst hab
  rw [ha', Option.some.injEq, Entry.file.injEq] at hb'
  rw [hb']

/-- The batches are listed in strict order of their names. -/
theorem Ordered.pairwise_batches {d : Directory} (h : d.Ordered) :
    d.batches.Pairwise fun a b => a.name < b.name := by
  refine List.Pairwise.filterMap batchOf? ?_ h
  rintro ⟨m, e⟩ ⟨n, f⟩ hlt b hb c hc
  cases e <;> cases f <;> simp_all [batchOf?]
  obtain ⟨-, rfl⟩ := hb
  obtain ⟨-, rfl⟩ := hc
  exact hlt

end Directory

end RouterTelemetry.Spool
