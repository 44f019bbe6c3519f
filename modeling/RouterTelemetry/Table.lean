/-!
# Tables

Entries with distinct keys, in the order in which the keys were first used. Main statements: `find?_put` and
`find?_keep` say what is found after a change; `find?_mapKeys`, `put_mapKeys` and `keep_mapKeys` say that nothing
depends on what the keys are.
-/

namespace RouterTelemetry.Table

variable {κ ν : Type} [DecidableEq κ]

/-- The value of a key. -/
def find? (k : κ) : List (κ × ν) → Option ν
  | [] => none
  | (j, v) :: rest => if j = k then some v else find? k rest

/-- Sets the value of a key: in its place, or behind the others. -/
def put (k : κ) (v : ν) : List (κ × ν) → List (κ × ν)
  | [] => [(k, v)]
  | (j, w) :: rest => if j = k then (j, v) :: rest else (j, w) :: put k v rest

/-- The entries whose values satisfy `p`. -/
def keep (p : ν → Bool) (t : List (κ × ν)) : List (κ × ν) :=
  t.filter fun e => p e.2

/-- The entries under other keys. -/
def mapKeys (f : κ → κ) (t : List (κ × ν)) : List (κ × ν) :=
  t.map fun e => (f e.1, e.2)

/-- A key that is not there has no value. -/
theorem find?_eq_none {k : κ} {t : List (κ × ν)} (h : k ∉ t.map Prod.fst) : find? k t = none := by
  induction t with
  | nil => rfl
  | cons e rest ih =>
    obtain ⟨hne, hrest⟩ := not_or.mp (mt List.mem_cons.mpr h)
    rw [find?, if_neg (Ne.symm hne), ih hrest]

theorem find?_put (k j : κ) (v : ν) (t : List (κ × ν)) :
    find? j (put k v t) = if k = j then some v else find? j t := by
  induction t with
  | nil => simp [put, find?]
  | cons e rest ih =>
    simp only [put]
    split
    · simp only [find?]; split <;> grind
    · simp only [find?]; grind

/-- What is found after entries were left out, if no key is there twice. -/
theorem find?_keep (p : ν → Bool) (k : κ) {t : List (κ × ν)} (h : (t.map Prod.fst).Nodup) :
    find? k (keep p t) = (find? k t).filter p := by
  induction t with
  | nil => rfl
  | cons e rest ih =>
    obtain ⟨j, w⟩ := e
    obtain ⟨hj, hrest⟩ := List.nodup_cons.mp h
    replace ih := ih hrest
    rw [keep] at ih ⊢
    rw [find?, List.filter_cons]
    by_cases hk : j = k
    · -- no later entry can take the place of this one
      have hnone : find? k rest = none := find?_eq_none (hk ▸ hj)
      rw [hnone] at ih
      cases hp : p w <;> simp [find?, hk, ih, Option.filter, hp]
    · cases p w <;> simp [find?, hk, ih]

/-- A key is put behind the others, unless it is there. -/
theorem map_fst_put (k : κ) (v : ν) (t : List (κ × ν)) :
    (put k v t).map Prod.fst =
      if k ∈ t.map Prod.fst then t.map Prod.fst else t.map Prod.fst ++ [k] := by
  induction t with
  | nil => rfl
  | cons e rest ih =>
    obtain ⟨j, w⟩ := e
    rw [put]
    by_cases hk : j = k
    · simp [hk]
    · rw [if_neg hk, List.map_cons, ih]
      by_cases hin : k ∈ rest.map Prod.fst <;> simp [hin, Ne.symm hk]

/-- No key is put twice. -/
theorem nodup_put (k : κ) (v : ν) {t : List (κ × ν)} (h : (t.map Prod.fst).Nodup) :
    ((put k v t).map Prod.fst).Nodup := by
  rw [map_fst_put]
  by_cases hk : k ∈ t.map Prod.fst
  · rwa [if_pos hk]
  · rw [if_neg hk, List.nodup_append]
    refine ⟨h, List.pairwise_singleton _ k, fun a ha b hb heq => hk ?_⟩
    rwa [← List.mem_singleton.mp hb, ← heq]

omit [DecidableEq κ] in
/-- Where no key is there twice, none is after entries were left out. -/
theorem nodup_keep (p : ν → Bool) {t : List (κ × ν)} (h : (t.map Prod.fst).Nodup) :
    ((keep p t).map Prod.fst).Nodup :=
  (List.filter_sublist.map Prod.fst).nodup h

theorem mem_of_find?_eq_some {k : κ} {v : ν} {t : List (κ × ν)} (h : find? k t = some v) : (k, v) ∈ t := by
  induction t with
  | nil => exact absurd h (by simp [find?])
  | cons e rest ih =>
    obtain ⟨j, w⟩ := e
    rw [find?] at h
    by_cases hk : j = k
    · rw [if_pos hk] at h
      rw [hk, Option.some.inj h]
      exact List.mem_cons_self ..
    · rw [if_neg hk] at h
      exact List.mem_cons_of_mem _ (ih h)

/-- Nothing else comes into a table than what is put there. -/
theorem mem_put {k : κ} {v : ν} {t : List (κ × ν)} {e : κ × ν} (h : e ∈ put k v t) : e = (k, v) ∨ e ∈ t := by
  induction t with
  | nil => exact Or.inl (List.mem_singleton.mp h)
  | cons e₀ rest ih =>
    obtain ⟨j, w⟩ := e₀
    rw [put] at h
    by_cases hk : j = k
    · rw [if_pos hk, hk] at h
      exact (List.mem_cons.mp h).imp_right (List.mem_cons_of_mem _)
    · rw [if_neg hk] at h
      rcases List.mem_cons.mp h with rfl | h
      · exact Or.inr (List.mem_cons_self ..)
      · exact (ih h).imp_right (List.mem_cons_of_mem _)

/-- Where no key is there twice, one entry at most has a key: the one that is found. -/
theorem filter_key_eq {t : List (κ × ν)} (h : (t.map Prod.fst).Nodup) (k : κ) :
    t.filter (fun e => e.1 = k) = ((find? k t).map (k, ·)).toList := by
  induction t with
  | nil => rfl
  | cons e rest ih =>
    obtain ⟨j, w⟩ := e
    obtain ⟨hj, hrest⟩ := List.nodup_cons.mp h
    have ih := ih hrest
    by_cases hk : j = k
    · -- no later entry has the key as well
      subst hk
      rw [find?_eq_none hj] at ih
      rw [List.filter_cons_of_pos (by simp), ih, find?, if_pos rfl]
      rfl
    · rw [List.filter_cons_of_neg (by simpa using hk), ih, find?, if_neg hk]

/-! ## Other keys -/

/-- Under other keys the same is found, if no other key becomes the one that is looked for. -/
theorem find?_mapKeys {f : κ → κ} {k : κ} {t : List (κ × ν)}
    (h : ∀ j ∈ t.map Prod.fst, f j = f k → j = k) : find? (f k) (mapKeys f t) = find? k t := by
  induction t with
  | nil => rfl
  | cons e rest ih =>
    obtain ⟨j, w⟩ := e
    obtain ⟨hj, hrest⟩ := List.forall_mem_cons.mp h
    have ih := ih hrest
    rw [mapKeys] at ih ⊢
    rw [List.map_cons, find?, find?, ih]
    by_cases hk : j = k
    · rw [if_pos hk, if_pos (congrArg f hk)]
    · rw [if_neg hk, if_neg (mt hj hk)]

theorem put_mapKeys {f : κ → κ} {k : κ} {t : List (κ × ν)}
    (h : ∀ j ∈ t.map Prod.fst, f j = f k → j = k) (v : ν) :
    put (f k) v (mapKeys f t) = mapKeys f (put k v t) := by
  induction t with
  | nil => rfl
  | cons e rest ih =>
    obtain ⟨j, w⟩ := e
    obtain ⟨hj, hrest⟩ := List.forall_mem_cons.mp h
    have ih := ih hrest
    rw [mapKeys] at ih ⊢
    rw [List.map_cons, put, put, ih]
    by_cases hk : j = k
    · rw [if_pos hk, if_pos (congrArg f hk)]
      rfl
    · rw [if_neg hk, if_neg (mt hj hk)]
      rfl

omit [DecidableEq κ] in
theorem keep_mapKeys (f : κ → κ) (p : ν → Bool) (t : List (κ × ν)) :
    keep p (mapKeys f t) = mapKeys f (keep p t) := by
  rw [keep, mapKeys, List.filter_map]
  rfl

end RouterTelemetry.Table
