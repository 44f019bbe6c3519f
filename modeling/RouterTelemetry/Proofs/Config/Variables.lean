import Mathlib.Control.Monad.Basic
import RouterTelemetry.Proofs.Config.Fields
import RouterTelemetry.Proofs.Config.Merging
import RouterTelemetry.Text.Utf8
/-!
# Variables have the last word

A variable that names a field sets it, whatever the file says of it, and changes nothing else. The exception is the
collector's address in a file that gives it under its older name: then the two names stand side by side, and nothing is
loaded. Main statements:

* `Environment.settings_of_one` : the settings of an environment in which one variable is set;
* `Kind.read?_merge` : what was there before does not matter to what is read;
* `ofEntries?_put` : one setting changes one field;
* `variable_has_last_word` : what is loaded where a variable is set;
* `old_name_beside_variable` : nothing is, where the file uses the older name.
-/

namespace RouterTelemetry.Config

open Text

/-! ## Settings of variables -/

/-- The variable that sets a field. -/
def Field.variableName (f : Field) : String :=
  Environment.mark ++ f.name.toUpper

namespace Environment

theorem settingName?_variableName (f : Field) : settingName? f.variableName = some f.name := by
  cases f <;> decide +kernel

/-- A variable that names no setting changes nothing. -/
theorem add_of_none {es : List (String × Value)} {x : String × String} (h : settingName? x.1 = none) :
    add es x = es := by
  rw [add, h]

theorem foldl_add_of_none {vars : List (String × String)} (h : ∀ x ∈ vars, settingName? x.1 = none)
    (es : List (String × Value)) : vars.foldl add es = es := by
  induction vars with
  | nil => rfl
  | cons x rest ih =>
    obtain ⟨hx, hrest⟩ := List.forall_mem_cons.mp h
    rw [List.foldl_cons, add_of_none hx, ih hrest]

/-- The name of a field is one part. -/
theorem nest_name (f : Field) (v : Value) :
    nest ((f.name.toList.splitOn '.').map String.ofList) v = .table [(f.name, v)] := by
  cases f <;> rfl

theorem add_variableName (es : List (String × Value)) (f : Field) (text : String) :
    add es (f.variableName, text) = Value.mergeEntries es [(f.name, ofText text)] := by
  rw [add, settingName?_variableName]
  dsimp only
  rw [nest_name]

/-- The settings of an environment in which one variable is set. -/
theorem settings_of_one {before after : List (String × String)}
    (h : ∀ x ∈ before ++ after, settingName? x.1 = none) (f : Field) (text : String) :
    settings (before ++ (f.variableName, text) :: after) = [(f.name, ofText text)] := by
  obtain ⟨hbefore, hafter⟩ := List.forall_mem_append.mp h
  rw [settings, List.foldl_append, foldl_add_of_none hbefore, List.foldl_cons, add_variableName,
    Value.mergeEntries_singleton, foldl_add_of_none hafter]
  rfl

end Environment

/-! ## Reading what was merged -/

/-- Only a level can be read from a table. -/
theorem Kind.read?_table {k : Kind} {es : List (String × Value)} {x : k.Carrier}
    (h : k.read? (.table es) = some x) : k = .level := by
  cases k with
  | level => rfl
  | _ => exact absurd h.symm (Option.some_ne_none x)

/-- A table is no level. -/
theorem Kind.read?_level_table {es : List (String × Value)} (h : (Value.toJson? (.table es)).isSome) :
    Kind.level.read? (.table es) = some LogLevel.info := by
  obtain ⟨j, hj⟩ := Option.isSome_iff_exists.mp h
  show (Value.toJson? (.table es)).map (fun j => (LogLevel.ofSetting j.sorted).1) = some LogLevel.info
  rw [hj]
  rw [Value.toJson?_table] at hj
  obtain ⟨members, -, rfl⟩ := Option.map_eq_some_iff.mp hj
  rfl

/-- A level is read from what can be written as JSON. -/
theorem Kind.isSome_toJson?_of_read? {v : Value} {x : Kind.level.Carrier} (h : Kind.level.read? v = some x) :
    v.toJson?.isSome := by
  obtain ⟨j, hj, -⟩ := Option.map_eq_some_iff.mp h
  exact Option.isSome_of_eq_some hj

/-- What was there before does not matter to what is read. -/
theorem Kind.read?_merge {k : Kind} {v w : Value} {x y : k.Carrier} (hv : k.read? v = some x)
    (hw : k.read? w = some y) : k.read? (Value.merge v w) = some y := by
  rcases Value.merge_eq_or v w with h | ⟨a, b, rfl, rfl⟩
  · rw [h, hw]
  · -- both are tables, and so is what they are merged to
    obtain rfl := Kind.read?_table hw
    have hw' := Kind.isSome_toJson?_of_read? hw
    have hmerged := Value.isSome_toJson?_merge _ _ (Kind.isSome_toJson?_of_read? hv) hw'
    rw [Kind.read?_level_table hw'] at hw
    rw [Value.merge_table] at hmerged ⊢
    rw [Kind.read?_level_table hmerged, hw]

namespace Field

variable {f g : Field} {es : List (String × Value)}

/-- What is set under the name of a field is read as what the field holds. -/
theorem read?_of_find? {x : f.kind.Carrier} {u : Value} (h : f.setting? es = some x)
    (hu : Table.find? f.name es = some u) : f.kind.read? u = some x := by
  by_cases hf : f = collectorUrl
  · subst hf
    rw [setting?_collectorUrl, hu] at h
    cases hold : Table.find? oldName es with
    | none => rwa [hold] at h
    | some u' =>
      rw [hold] at h
      exact absurd h.symm (Option.some_ne_none x)
  · rwa [setting?_of_ne hf, field, hu] at h

/-- A setting says nothing of other fields. -/
theorem setting?_put_of_ne (h : g ≠ f) (v : Value) : g.setting? (Table.put f.name v es) = g.setting? es := by
  have hname : f.name ≠ g.name := fun heq => h (name_injective heq).symm
  by_cases hg : g = collectorUrl
  · subst hg
    rw [setting?_collectorUrl, setting?_collectorUrl, Table.find?_put, if_neg hname, Table.find?_put,
      if_neg f.name_ne_oldName]
  · rw [setting?_of_ne hg, setting?_of_ne hg, field, field, Table.find?_put, if_neg hname]

/-- A setting is read as what it says, unless it gives the collector's address for a second time. -/
theorem setting?_put_self (hold : f = collectorUrl → Table.find? oldName es = none) (v : Value) :
    f.setting? (Table.put f.name v es) = f.kind.read? v := by
  by_cases hf : f = collectorUrl
  · subst hf
    rw [setting?_collectorUrl, Table.find?_put, if_pos rfl, Table.find?_put,
      if_neg (name_ne_oldName collectorUrl), hold rfl]
    rfl
  · rw [setting?_of_ne hf, field, Table.find?_put, if_pos rfl]

/-- The collector's address cannot be given twice. -/
theorem setting?_put_of_oldName (hold : Table.find? oldName es ≠ none) (v : Value) :
    collectorUrl.setting? (Table.put collectorUrl.name v es) = none := by
  obtain ⟨u, hu⟩ := Option.ne_none_iff_exists'.mp hold
  rw [setting?_collectorUrl, Table.find?_put, if_pos rfl, Table.find?_put,
    if_neg (name_ne_oldName collectorUrl), hu]

end Field

/-- One setting changes one field. -/
theorem ofEntries?_put {f : Field} {es : List (String × Value)} {c : Config} {w : Option String} {v : Value}
    {x : f.kind.Carrier} (h : ofEntries? es = some (c, w)) (hv : f.kind.read? v = some x)
    (hold : f = .collectorUrl → Table.find? Field.oldName es = none) :
    ∃ w', ofEntries? (Table.put f.name v es) = some (f.set x c, w') ∧ (f ≠ .logLevel → w' = w) := by
  obtain ⟨hfields, hlevel⟩ := ofEntries?_eq_some_iff.mp h
  have hfields' : ∀ g : Field, g.setting? (Table.put f.name v es) = some (g.get (f.set x c)) := by
    intro g
    by_cases hg : g = f
    · subst hg
      rw [Field.setting?_put_self hold, hv, Field.get_set_self]
    · rw [Field.setting?_put_of_ne hg, hfields, Field.get_set_of_ne hg]
  -- the level is read together with the complaint about it
  have hset := hfields' .logLevel
  rw [Field.setting?_logLevel] at hset
  obtain ⟨⟨level, w'⟩, hlevel', rfl⟩ := Option.map_eq_some_iff.mp hset
  refine ⟨w', ofEntries?_eq_some_iff.mpr ⟨hfields', hlevel'⟩, fun hf => ?_⟩
  have hname : f.name ≠ "log_level" := fun heq => hf (@Field.name_injective f .logLevel heq)
  rw [logLevel?, Table.find?_put, if_neg hname, ← logLevel?, hlevel] at hlevel'
  exact (Prod.mk.inj (Option.some.inj hlevel')).2.symm

/-! ## Loading with a variable -/

/-- Whether a file gives the collector's address under its older name. -/
def usesOldName (file : Bytes) : Bool :=
  ((fileEntries? file).bind (Table.find? Field.oldName)).isSome

/-- What a file that can be loaded and a variable say together. -/
theorem load_of_one {path : String} {file : Bytes} {before after : List (String × String)} {c : Config}
    {w : Option String} (hquiet : ∀ x ∈ before ++ after, Environment.settingName? x.1 = none)
    (hload : load path (some file) (before ++ after) = .ok (c, w)) :
    ∃ es c₀, fileEntries? file = some es ∧ ofEntries? es = some (c₀, w) ∧ c₀.withDefaults = c ∧
      ∀ (f : Field) (text : String), Value.mergeEntries es
        (Environment.settings (before ++ (f.variableName, text) :: after)) =
          Table.put f.name ((Table.find? f.name es).elim (Environment.ofText text)
            (Value.merge · (Environment.ofText text))) es := by
  obtain ⟨bytes, es, c₀, hbytes, hes, hentries, hc, -⟩ := load_eq_ok_iff.mp hload
  obtain rfl := Option.some.inj hbytes
  rw [Environment.settings, Environment.foldl_add_of_none hquiet, Value.mergeEntries_nil] at hentries
  refine ⟨es, c₀, hes, hentries, hc, fun f text => ?_⟩
  rw [Environment.settings_of_one hquiet, Value.mergeEntries_singleton]

/-- Settings of which one cannot be read make up no configuration. -/
theorem load_of_setting?_eq_none {path : String} {file : Bytes} {vars : List (String × String)}
    {es : List (String × Value)} (hes : fileEntries? file = some es) {f : Field}
    (h : f.setting? (Value.mergeEntries es (Environment.settings vars)) = none) :
    ∃ reason, load path (some file) vars = .error (.unreadable reason) := by
  have hnone := ofEntries?_eq_none_iff.mpr ⟨f, h⟩
  rw [fileEntries?] at hes
  simp only [load, hes, hnone]
  exact ⟨_, rfl⟩

/-- **Variables have the last word.** A variable that names a field sets it to what the variable says, or to the
standard value in the place of zero or an empty text, and no other field. Only the collector's address cannot be set so
where the file gives it under its older name; then nothing is loaded. -/
theorem variable_has_last_word {path : String} {file : Bytes} {before after : List (String × String)} {c : Config}
    {w : Option String} (hquiet : ∀ x ∈ before ++ after, Environment.settingName? x.1 = none)
    (hload : load path (some file) (before ++ after) = .ok (c, w)) {f : Field} {text : String}
    {v : f.kind.Carrier} (hv : f.kind.read? (Environment.ofText text) = some v)
    (hfault : (f.set (f.filled v) c).fault? = none) :
    let loaded := load path (some file) (before ++ (f.variableName, text) :: after)
    if f = .collectorUrl ∧ usesOldName file then ∃ reason, loaded = .error (.unreadable reason)
    else ∃ w', loaded = .ok (f.set (f.filled v) c, w') ∧ (f ≠ .logLevel → w' = w) := by
  intro loaded
  obtain ⟨es, c₀, hes, hentries, rfl, hmerged⟩ := load_of_one hquiet hload
  have hold : usesOldName file = (Table.find? Field.oldName es).isSome := by
    rw [usesOldName, hes, Option.bind_some]
  split
  · next h =>
    obtain ⟨rfl, huses⟩ := h
    rw [hold] at huses
    refine load_of_setting?_eq_none hes (f := .collectorUrl) ?_
    rw [hmerged, Field.setting?_put_of_oldName (Option.isSome_iff_ne_none.mp huses)]
  · next h =>
    have hread : f.kind.read? ((Table.find? f.name es).elim (Environment.ofText text)
        (Value.merge · (Environment.ofText text))) = some v := by
      cases hu : Table.find? f.name es with
      | none => exact hv
      | some u =>
        exact Kind.read?_merge (Field.read?_of_find? ((ofEntries?_eq_some_iff.mp hentries).1 f) hu) hv
    have hnew : f = .collectorUrl → Table.find? Field.oldName es = none := by
      intro hf
      rw [hold] at h
      exact Option.not_isSome_iff_eq_none.mp fun huses => h ⟨hf, huses⟩
    obtain ⟨w', hput, hw'⟩ := ofEntries?_put hentries hread hnew
    rw [← hmerged] at hput
    exact ⟨w', load_eq_ok_iff.mpr ⟨file, es, _, rfl, hes, hput, Field.withDefaults_set .., hfault⟩, hw'⟩

/-- A variable that asks for the standard number of events. -/
theorem variable_of_zero_events :
    let file := ("router_id: edge\ncollector_url: https://example.com\nauth_token: token\n" ++
      "nflog_groups: [10, 11]\nbatch_max_events: 7\n").toUTF8.data.toList
    let c : Config := {
      routerId := "edge", collectorUrl := "https://example.com", authToken := "token", nflogGroups := [10, 11],
      batchMaxEvents := 7 }
    let vars := [("HOME", "/root"), (Field.variableName .batchMaxEvents, "0")]
    (∀ x ∈ [("HOME", "/root")] ++ [], Environment.settingName? x.1 = none) ∧
      load "config.yaml" (some file) [("HOME", "/root")] = .ok (c, none) ∧
      Field.batchMaxEvents.kind.read? (Environment.ofText "0") = some (0 : Nat) ∧
      (Field.batchMaxEvents.set (Field.batchMaxEvents.filled (0 : Nat)) c).fault? = none ∧
      ∃ w, load "config.yaml" (some file) vars = .ok ({ c with batchMaxEvents := 250 }, w) := by
  intro file c vars
  have hquiet : ∀ x ∈ [("HOME", "/root")] ++ [], Environment.settingName? x.1 = none := by decide +kernel
  have hload : load "config.yaml" (some file) [("HOME", "/root")] = .ok (c, none) := by decide +kernel
  have hread : Field.batchMaxEvents.kind.read? (Environment.ofText "0") = some (0 : Nat) := by
    show asNatural? 64 (Environment.ofText "0") = some 0
    decide +kernel
  have hfault : (Field.batchMaxEvents.set (Field.batchMaxEvents.filled (0 : Nat)) c).fault? = none := by
    decide +kernel
  obtain ⟨w, hw, -⟩ := variable_has_last_word hquiet hload hread hfault
  exact ⟨hquiet, hload, hread, hfault, w, hw⟩

/-- A file that gives the collector's address under its older name, and a variable with another address. -/
theorem old_name_beside_variable :
    let file := ("router_id: edge\nrails_base_url: http://10.0.0.2:3000\nauth_token: token\n" ++
      "nflog_groups: [11]\n").toUTF8.data.toList
    let c : Config := {
      routerId := "edge", collectorUrl := "http://10.0.0.2:3000", authToken := "token", nflogGroups := [11] }
    load "config.yaml" (some file) [] = .ok (c, none) ∧
      Kind.text.read? (Environment.ofText "https://example.com") = some "https://example.com" ∧
      (Field.collectorUrl.set (Field.collectorUrl.filled "https://example.com") c).fault? = none ∧
      ¬ ∃ w, load "config.yaml" (some file) [("NETMON_COLLECTOR_URL", "https://example.com")] =
        .ok (Field.collectorUrl.set (Field.collectorUrl.filled "https://example.com") c, w) := by
  intro file c
  have hload : load "config.yaml" (some file) [] = .ok (c, none) := by decide +kernel
  have hread : Kind.text.read? (Environment.ofText "https://example.com") = some "https://example.com" := by
    show asText? (Environment.ofText "https://example.com") = some "https://example.com"
    decide +kernel
  have hfault : (Field.collectorUrl.set (Field.collectorUrl.filled "https://example.com") c).fault? = none := by
    decide +kernel
  have hnone : (load "config.yaml" (some file) [("NETMON_COLLECTOR_URL", "https://example.com")]).toOption = none := by
    decide +kernel
  refine ⟨hload, hread, hfault, ?_⟩
  rintro ⟨w, hw⟩
  rw [hw] at hnone
  exact absurd hnone (Option.some_ne_none _)

end RouterTelemetry.Config
