import RouterTelemetry.Proofs.Config.Variables
/-!
# What is at fault

Where settings make up no configuration, one of them is at fault: it cannot be read, or it sets the collector's address
for a second time. Main statements:

* `isSome_ofEntries?_singleton_iff` : a setting can be read alone if it is of the kind of its field;
* `isSome_refused?` : something is at fault where nothing is made up;
* `load_of_fileEntries?` and `load_of_fileEntries?_eq_none` : what is loaded, and what is said otherwise;
* `load_congr` : sources that make up the same, and in which the same is at fault, lead to the same.
-/

namespace RouterTelemetry.Config

open Text

/-! ## Settings alone -/

/-- A setting can be read alone if it is of the kind of its field. -/
theorem isSome_ofEntries?_singleton_iff (f : Field) (v : Value) :
    (ofEntries? [(f.name, v)]).isSome ↔ (f.kind.read? v).isSome := by
  have hput : Table.put f.name v [] = [(f.name, v)] := rfl
  constructor
  · intro h
    obtain ⟨⟨c, w⟩, h⟩ := Option.isSome_iff_exists.mp h
    have hset := (ofEntries?_eq_some_iff.mp h).1 f
    rw [← hput, Field.setting?_put_self fun _ => rfl] at hset
    exact Option.isSome_of_eq_some hset
  · intro h
    obtain ⟨x, hx⟩ := Option.isSome_iff_exists.mp h
    have hempty : ofEntries? [] = some ({}, none) := rfl
    obtain ⟨w, hw, -⟩ := ofEntries?_put hempty hx fun _ => rfl
    rw [hput] at hw
    exact Option.isSome_of_eq_some hw

/-- Under its older name the collector's address is a text as well. -/
theorem ofEntries?_oldName_eq_none {v : Value} (h : asText? v = none) : ofEntries? [(Field.oldName, v)] = none :=
  ofEntries?_eq_none_iff.mpr ⟨.collectorUrl, h⟩

/-! ## Faults -/

section Faults

variable {path : String} {inFile inVariables : List (String × Value)} {v : Value}

/-- What is not there is not at fault. -/
theorem refusedAt?_of_find?_eq_none {name : String}
    (h : Table.find? name (Value.mergeEntries inFile inVariables) = none) :
    refusedAt? path inFile inVariables name = none := by
  rw [refusedAt?, h]
  rfl

/-- A field under its own name is at fault if it is set to what it cannot hold. -/
theorem refusedAt?_name {f : Field} (h : Table.find? f.name (Value.mergeEntries inFile inVariables) = some v) :
    refusedAt? path inFile inVariables f.name =
      if (f.kind.read? v).isSome then none
      else some (.setting path f.name (Table.find? f.name inFile) (Table.find? f.name inVariables)) := by
  rw [refusedAt?, h, Option.bind_some, if_neg fun hold => f.name_ne_oldName hold.1]
  simp only [isSome_ofEntries?_singleton_iff]

/-- The older name of the collector's address is at fault beside the newer one. -/
theorem isSome_refusedAt?_oldName (h : Table.find? Field.oldName (Value.mergeEntries inFile inVariables) = some v)
    (hfault : asText? v = none ∨ (Table.find? "collector_url" (Value.mergeEntries inFile inVariables)).isSome) :
    (refusedAt? path inFile inVariables Field.oldName).isSome := by
  rw [refusedAt?, h, Option.bind_some]
  split
  · rfl
  · next hnew =>
    have htext : asText? v = none := hfault.resolve_right fun hnew' => hnew ⟨rfl, hnew'⟩
    rw [ofEntries?_oldName_eq_none htext, Option.isSome_none, if_neg Bool.false_ne_true]
    rfl

/-- A field that cannot be read is at fault under one of its names. -/
theorem exists_refusedAt? {f : Field} (h : f.setting? (Value.mergeEntries inFile inVariables) = none) :
    ∃ n ∈ readingOrder, (refusedAt? path inFile inVariables n).isSome := by
  have hname : f.name ∈ readingOrder := by cases f <;> decide
  by_cases hf : f = .collectorUrl
  · subst hf
    rw [Field.setting?_collectorUrl] at h
    cases hold : Table.find? Field.oldName (Value.mergeEntries inFile inVariables) with
    | some u =>
      refine ⟨Field.oldName, by decide, isSome_refusedAt?_oldName hold ?_⟩
      rw [hold] at h
      cases hnew : Table.find? Field.collectorUrl.name (Value.mergeEntries inFile inVariables) with
      | some v => exact Or.inr (Option.isSome_of_eq_some hnew)
      | none =>
        rw [hnew] at h
        exact Or.inl h
    | none =>
      rw [hold] at h
      cases hnew : Table.find? Field.collectorUrl.name (Value.mergeEntries inFile inVariables) with
      | some v =>
        rw [hnew] at h
        have hread : Field.collectorUrl.kind.read? v = none := h
        refine ⟨_, hname, ?_⟩
        rw [refusedAt?_name hnew, hread]
        rfl
      | none =>
        rw [hnew] at h
        exact absurd h (by simp)
  · rw [Field.setting?_of_ne hf, field] at h
    cases hv : Table.find? f.name (Value.mergeEntries inFile inVariables) with
    | some v =>
      rw [hv] at h
      refine ⟨_, hname, ?_⟩
      rw [refusedAt?_name hv, show f.kind.read? v = none from h]
      rfl
    | none =>
      rw [hv] at h
      exact absurd h (by simp)

/-- **Something is at fault where nothing is made up.** -/
theorem isSome_refused? (h : ofEntries? (Value.mergeEntries inFile inVariables) = none) (path : String) :
    (refused? path inFile inVariables).isSome := by
  obtain ⟨f, hf⟩ := ofEntries?_eq_none_iff.mp h
  rw [refused?, List.findSome?_isSome_iff]
  exact exists_refusedAt? hf

end Faults

/-! ## Loading -/

/-- What settings in a file and the environment make up, with standard values. -/
def made? (entries : List (String × Value)) (vars : List (String × String)) : Option (Config × Option String) :=
  (ofEntries? (Value.mergeEntries entries (Environment.settings vars))).map fun cw => (cw.1.withDefaults, cw.2)

section Loading

variable {bytes : Bytes} {es : List (String × Value)} (path : String) (vars : List (String × String))
  (say : Unreadable → String)

/-- Nothing is loaded from a file that is no table of settings. -/
theorem load_of_fileEntries?_eq_none (h : fileEntries? bytes = none) :
    load path (some bytes) vars say = .error (.unreadable (say (.document path bytes))) := by
  rw [fileEntries?] at h
  simp only [load, h]

/-- What is loaded is what the settings make up, if it has no fault. -/
theorem load_of_fileEntries? (h : fileEntries? bytes = some es) :
    load path (some bytes) vars say =
      match made? es vars with
      | none => .error (.unreadable (say ((refused? path es (Environment.settings vars)).getD (.document path bytes))))
      | some (c, w) => do
        let c ← c.validate
        return (c, w) := by
  rw [fileEntries?] at h
  cases hc : ofEntries? (Value.mergeEntries es (Environment.settings vars)) with
  | none => simp only [load, made?, h, hc, Option.map_none]
  | some cw => simp only [load, made?, h, hc, Option.map_some]

/-- Where nothing is made up, what is said is about what is at fault. -/
theorem exists_refused?_of_made?_eq_none (h : made? es vars = none) :
    ∃ cause, refused? path es (Environment.settings vars) = some cause :=
  Option.isSome_iff_exists.mp (isSome_refused? (Option.map_eq_none_iff.mp h) path)

/-- Sources that make up the same, and in which the same is at fault, lead to the same. -/
theorem load_congr {bytes' : Bytes} {es' : List (String × Value)} (h : fileEntries? bytes = some es)
    (h' : fileEntries? bytes' = some es') (hmade : made? es vars = made? es' vars)
    (hrefused : refused? path es (Environment.settings vars) = refused? path es' (Environment.settings vars)) :
    load path (some bytes) vars say = load path (some bytes') vars say := by
  rw [load_of_fileEntries? path vars say h, load_of_fileEntries? path vars say h', hmade]
  cases hmade' : made? es' vars with
  | some cw => rfl
  | none =>
    -- the documents themselves are not at fault
    obtain ⟨cause, hcause⟩ := exists_refused?_of_made?_eq_none path vars hmade'
    rw [hrefused, hcause]
    rfl

end Loading

end RouterTelemetry.Config
