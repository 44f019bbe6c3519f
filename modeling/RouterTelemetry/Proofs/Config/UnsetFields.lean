import RouterTelemetry.Proofs.Config.Limits
import RouterTelemetry.Proofs.Config.Refusals
import RouterTelemetry.Proofs.Yaml.Aliases

/-!
# Fields that are not set

A field that takes its standard value in the place of zero or an empty text has the same value whether a document does
not set it, sets it to zero, or sets it to the standard value. The rest of what is loaded, or what is at fault if
nothing is, is the same as well, as long as each document can be read: of one that cannot be read it is said where in
its own text that is so, and a longer document may follow more aliases. Main statements:

* `find?_merged` : what is found where one document sets a field and another one does not;
* `ofEntries?_put_eq` : one setting that can be read changes one field, or there was nothing to change;
* `refused?_eq_of_read?` : a setting that can be read does not change what is at fault;
* `load_eq_of_leaves` : documents that leave a field at its standard value, whichever way, lead to the same;
* `Complete.of_load` : what a configuration that was loaded has;
* `unset_zero_and_standard_alike` : both together;
* `zero_depth_beside_aliases` : setting a field to zero can make room for the aliases of a document.
-/

namespace RouterTelemetry.Config

open Text
open Yaml (Node deepest)

/-! ## Documents -/

/-- The pairs of the mapping that a document is: an empty list if nothing is written in it, and `none` if it is no
document, follows too many aliases or is no mapping. -/
def documentPairs? (bytes : Bytes) : Option (List (Node × Node)) := do
  match ← Node.ofText? (← decodeUtf8? bytes) with
  | none => some []
  | some (.scalar _ plain s) => if plain && s.isEmpty then some [] else none
  | some (.sequence _ _) => none
  | some (.mapping _ pairs) => some pairs

/-- The settings of a file are read from the pairs of its document. -/
theorem fileEntries?_eq (bytes : Bytes) :
    fileEntries? bytes =
      (documentPairs? bytes).bind fun ps => (pairValues? (deepest - 1) ps).map Value.ofEntries := by
  unfold fileEntries? documentPairs? documentEntries?
  cases decodeUtf8? bytes with
  | none => rfl
  | some text =>
    show (Node.ofText? text).bind _ = ((Node.ofText? text).bind _).bind _
    rw [Option.bind_assoc]
    congr 1
    funext document
    rcases document with _ | (⟨tag, plain, s⟩ | _ | _)
    · rfl
    · dsimp only
      split <;> rfl
    · rfl
    · rfl

/-- Pairs are read one by one. -/
theorem pairValues?_append (room : Nat) (as bs : List (Node × Node)) :
    pairValues? room (as ++ bs) =
      (pairValues? room as).bind fun es => (pairValues? room bs).map (es ++ ·) := by
  induction as with
  | nil => simp [pairValues?]
  | cons p as ih =>
    obtain ⟨k, v⟩ := p
    rw [List.cons_append, pairValues?, pairValues?, ih]
    cases key? k with
    | none => rfl
    | some key =>
      cases nodeValue? room v with
      | none => rfl
      | some val =>
        cases pairValues? room as with
        | none => rfl
        | some es => cases pairValues? room bs <;> rfl

/-- Pairs can be read if each key and each value can. -/
theorem isSome_pairValues?_iff {room : Nat} {ps : List (Node × Node)} :
    (pairValues? room ps).isSome ↔ ∀ p ∈ ps, (key? p.1).isSome ∧ (nodeValue? room p.2).isSome := by
  induction ps with
  | nil => simp [pairValues?]
  | cons p rest ih =>
    obtain ⟨k, v⟩ := p
    rw [List.forall_mem_cons, ← ih, pairValues?]
    cases key? k <;> cases nodeValue? room v <;> cases pairValues? room rest <;> simp

/-- The keys of what is read are those of the pairs. -/
theorem key?_of_mem_pairValues? {room : Nat} {ps : List (Node × Node)} {es : List (String × Value)}
    (h : pairValues? room ps = some es) {name : String} (hname : name ∈ es.map Prod.fst) :
    ∃ p ∈ ps, key? p.1 = some name := by
  induction ps generalizing es with
  | nil =>
    obtain rfl := Option.some.inj h
    exact absurd hname List.not_mem_nil
  | cons p ps ih =>
    obtain ⟨k, v⟩ := p
    rw [pairValues?] at h
    obtain ⟨key, hkey, h⟩ := Option.bind_eq_some_iff.mp h
    obtain ⟨val, -, h⟩ := Option.bind_eq_some_iff.mp h
    obtain ⟨rest, hrest, h⟩ := Option.bind_eq_some_iff.mp h
    obtain rfl := Option.some.inj h
    rcases List.mem_cons.mp hname with rfl | hname
    · exact ⟨(k, v), List.mem_cons_self .., hkey⟩
    · obtain ⟨p, hp, hpkey⟩ := ih hrest hname
      exact ⟨p, List.mem_cons_of_mem _ hp, hpkey⟩

/-- One pair more, with a key of its own, is one entry more. -/
theorem exists_pairValues? {room : Nat} {n : String} {before after : List (Node × Node)}
    (hothers : ∀ p ∈ before ++ after, key? p.1 ≠ some n) (hread : (pairValues? room (before ++ after)).isSome)
    {key value : Node} {v : Value} (hname : key? key = some n) (hv : nodeValue? room value = some v) :
    ∃ as bs, n ∉ (as ++ bs).map Prod.fst ∧ pairValues? room (before ++ after) = some (as ++ bs) ∧
      pairValues? room (before ++ (key, value) :: after) = some (as ++ (n, v) :: bs) := by
  obtain ⟨es, hes⟩ := Option.isSome_iff_exists.mp hread
  have hparts := hes
  rw [pairValues?_append] at hparts
  obtain ⟨as, has, hparts⟩ := Option.bind_eq_some_iff.mp hparts
  obtain ⟨bs, hbs, rfl⟩ := Option.map_eq_some_iff.mp hparts
  refine ⟨as, bs, fun hmem => ?_, hes, ?_⟩
  · -- no name is among what is read that is not among the keys
    obtain ⟨p, hp, hkey⟩ := key?_of_mem_pairValues? hes hmem
    exact hothers p hp hkey
  · rw [pairValues?_append, pairValues?, hname, hv, has, hbs]
    rfl

/-- One pair more makes no others readable, and has to be readable itself. -/
theorem pairValues?_eq_none {room : Nat} {before after : List (Node × Node)} {key value : Node}
    (h : nodeValue? room value = none ∨ ¬ (pairValues? room (before ++ after)).isSome) :
    pairValues? room (before ++ (key, value) :: after) = none := by
  rw [← Option.not_isSome_iff_eq_none, isSome_pairValues?_iff]
  intro hall
  rcases h with hv | hothers
  · have hvalue := (hall (key, value) (by simp)).2
    rw [hv] at hvalue
    exact absurd hvalue (by simp)
  · rw [isSome_pairValues?_iff] at hothers
    refine hothers fun p hp => hall p ?_
    exact (List.mem_append.mp hp).elim (fun hp => List.mem_append_left _ hp) fun hp =>
      List.mem_append_right _ (List.mem_cons_of_mem _ hp)

/-! ## What is found -/

/-- A table with some entries put into it. -/
def Value.putAll (t es : List (String × Value)) : List (String × Value) :=
  es.foldl (fun t e => Table.put e.1 e.2 t) t

theorem Value.ofEntries_append (as bs : List (String × Value)) :
    ofEntries (as ++ bs) = putAll (ofEntries as) bs := by
  unfold ofEntries putAll
  rw [List.foldl_append]

section Finding

variable {j n : String} {t t' : List (String × Value)}

/-- What is found under a key depends on what was found under it, and on what is put. -/
theorem find?_putAll_congr (h : Table.find? j t = Table.find? j t') (es : List (String × Value)) :
    Table.find? j (Value.putAll t es) = Table.find? j (Value.putAll t' es) := by
  induction es generalizing t t' with
  | nil => exact h
  | cons e es ih =>
    apply ih
    rw [Table.find?_put, Table.find?_put, h]

/-- Nothing changes under a key that is not put. -/
theorem find?_putAll_of_not_mem {es : List (String × Value)} (h : j ∉ es.map Prod.fst) :
    Table.find? j (Value.putAll t es) = Table.find? j t := by
  induction es generalizing t with
  | nil => rfl
  | cons e es ih =>
    obtain ⟨hne, hrest⟩ := not_or.mp (mt List.mem_cons.mpr h)
    show Table.find? j (Value.putAll (Table.put e.1 e.2 t) es) = Table.find? j t
    rw [ih hrest, Table.find?_put, if_neg (Ne.symm hne)]

/-- What is found under a key after a merge depends on what was found under it. -/
theorem find?_mergeEntries_congr (h : Table.find? j t = Table.find? j t') (b : List (String × Value)) :
    Table.find? j (Value.mergeEntries t b) = Table.find? j (Value.mergeEntries t' b) := by
  induction b generalizing t t' with
  | nil => rwa [Value.mergeEntries_nil, Value.mergeEntries_nil]
  | cons e b ih =>
    obtain ⟨k, w⟩ := e
    rw [Value.mergeEntries_cons, Value.mergeEntries_cons]
    apply ih
    rw [Table.find?_put, Table.find?_put]
    by_cases hk : k = j
    · rw [if_pos hk, if_pos hk, hk, h]
    · rw [if_neg hk, if_neg hk, h]

/-- A source that says nothing of a key leaves what is there. -/
theorem find?_mergeEntries_of_none {b : List (String × Value)} (h : Table.find? j b = none) :
    Table.find? j (Value.mergeEntries t b) = Table.find? j t := by
  induction b generalizing t with
  | nil => rw [Value.mergeEntries_nil]
  | cons e b ih =>
    obtain ⟨k, w⟩ := e
    rw [Table.find?] at h
    by_cases hk : k = j
    · rw [if_pos hk] at h
      exact absurd h (by simp)
    · rw [if_neg hk] at h
      rw [Value.mergeEntries_cons, ih h, Table.find?_put, if_neg hk]

/-- **What is found where one document sets a field** and another one does not, and the environment does not either. -/
theorem find?_merged {as bs env : List (String × Value)} (hout : n ∉ (as ++ bs).map Prod.fst)
    (henv : Table.find? n env = none) (v : Value) :
    Table.find? j (Value.mergeEntries (Value.ofEntries (as ++ (n, v) :: bs)) env) =
      if n = j then some v else Table.find? j (Value.mergeEntries (Value.ofEntries (as ++ bs)) env) := by
  rw [List.map_append, List.mem_append, not_or] at hout
  rw [Value.ofEntries_append, Value.ofEntries_append]
  show Table.find? j (Value.mergeEntries (Value.putAll (Table.put n v (Value.ofEntries as)) bs) env) = _
  by_cases hj : n = j
  · subst hj
    rw [if_pos rfl, find?_mergeEntries_of_none henv, find?_putAll_of_not_mem hout.2, Table.find?_put, if_pos rfl]
  · rw [if_neg hj]
    refine find?_mergeEntries_congr (find?_putAll_congr ?_ bs) env
    rw [Table.find?_put, if_neg hj]

/-- Nothing is found where nothing sets a field. -/
theorem find?_merged_of_not_mem {es env : List (String × Value)} (hout : n ∉ es.map Prod.fst)
    (henv : Table.find? n env = none) : Table.find? n (Value.mergeEntries (Value.ofEntries es) env) = none := by
  rw [find?_mergeEntries_of_none henv]
  exact find?_putAll_of_not_mem (t := []) hout

end Finding

/-! ## Reading -/

/-- What settings make up depends on what is found under their names. -/
theorem ofEntries?_congr {es es' : List (String × Value)} (h : ∀ j, Table.find? j es = Table.find? j es') :
    ofEntries? es = ofEntries? es' := by
  simp only [ofEntries?, logLevel?, collectorUrl?, field, h]

/-- A setting that the environment does not touch can be put in last. -/
theorem ofEntries?_merged {n : String} {as bs env : List (String × Value)} (hout : n ∉ (as ++ bs).map Prod.fst)
    (henv : Table.find? n env = none) (v : Value) :
    ofEntries? (Value.mergeEntries (Value.ofEntries (as ++ (n, v) :: bs)) env) =
      ofEntries? (Table.put n v (Value.mergeEntries (Value.ofEntries (as ++ bs)) env)) := by
  apply ofEntries?_congr
  intro j
  rw [find?_merged hout henv, Table.find?_put]

/-- **One setting changes one field**, and the complaint is that of the settings with it. Where the others make up no
configuration, they still do not. -/
theorem ofEntries?_put_eq {f : Field} (hf : f ≠ .collectorUrl) {es : List (String × Value)}
    (hnone : Table.find? f.name es = none) {v : Value} {x : f.kind.Carrier} (hv : f.kind.read? v = some x) :
    ofEntries? (Table.put f.name v es) =
      (ofEntries? es).bind fun cw => (logLevel? (Table.put f.name v es)).map fun lw => (f.set x cw.1, lw.2) := by
  cases hes : ofEntries? es with
  | some cw =>
    obtain ⟨c, w⟩ := cw
    obtain ⟨w', hput, -⟩ := ofEntries?_put hes hv (absurd · hf)
    rw [hput, Option.bind_some, (ofEntries?_eq_some_iff.mp hput).2]
    rfl
  | none =>
    rw [Option.bind_none, Option.eq_none_iff_forall_ne_some]
    rintro ⟨c, w⟩ hput
    obtain ⟨hfields, -⟩ := ofEntries?_eq_some_iff.mp hput
    -- the other fields can be read, and so can this one where it is not set
    have hall : ∀ g : Field, g.setting? es = some (g.get (f.set f.standard c)) := by
      intro g
      by_cases hg : g = f
      · subst hg
        rw [Field.get_set_self, Field.setting?_of_ne hf, field, hnone]
      · rw [Field.get_set_of_ne hg, ← hfields g, Field.setting?_put_of_ne hg]
    have hlevel := hall .logLevel
    rw [Field.setting?_logLevel] at hlevel
    obtain ⟨⟨l, w'⟩, hlevel', rfl⟩ := Option.map_eq_some_iff.mp hlevel
    have hsome := ofEntries?_eq_some_iff.mpr ⟨hall, hlevel'⟩
    exact absurd (hes.symm.trans hsome) (by simp)

/-- The complaint is still the same where another field than the level is set. -/
theorem ofEntries?_put_of_read? {f : Field} (hf : f ≠ .collectorUrl) (hf' : f ≠ .logLevel)
    {es : List (String × Value)} (hnone : Table.find? f.name es = none) {v : Value} {x : f.kind.Carrier}
    (hv : f.kind.read? v = some x) :
    ofEntries? (Table.put f.name v es) = (ofEntries? es).map fun cw => (f.set x cw.1, cw.2) := by
  have hname : f.name ≠ "log_level" := fun heq => hf' (@Field.name_injective f .logLevel heq)
  have hlevel : logLevel? (Table.put f.name v es) = logLevel? es := by
    rw [logLevel?, logLevel?, Table.find?_put, if_neg hname]
  rw [ofEntries?_put_eq hf hnone hv, hlevel]
  cases hes : ofEntries? es with
  | none => rfl
  | some cw =>
    rw [Option.bind_some, (ofEntries?_eq_some_iff.mp hes).2]
    rfl

/-- **A setting that can be read does not change what is at fault.** -/
theorem refused?_eq_of_read? {f : Field} (hf : f ≠ .collectorUrl) {as bs env : List (String × Value)}
    (hout : f.name ∉ (as ++ bs).map Prod.fst) (henv : Table.find? f.name env = none) {v : Value} {x : f.kind.Carrier}
    (hread : f.kind.read? v = some x) (path : String) :
    refused? path (Value.ofEntries (as ++ (f.name, v) :: bs)) env = refused? path (Value.ofEntries (as ++ bs)) env := by
  refine congrArg (List.findSome? · readingOrder) (funext fun n => ?_)
  by_cases hn : f.name = n
  · subst hn
    have hset := find?_merged (j := f.name) hout henv v
    rw [if_pos rfl] at hset
    rw [refusedAt?_name hset, hread, refusedAt?_of_find?_eq_none (find?_merged_of_not_mem hout henv)]
    rfl
  · -- under other names there is the same, in the file and with the variables
    have hsame (j : String) (hj : f.name ≠ j) (env : List (String × Value)) (henv : Table.find? f.name env = none) :
        Table.find? j (Value.mergeEntries (Value.ofEntries (as ++ (f.name, v) :: bs)) env) =
          Table.find? j (Value.mergeEntries (Value.ofEntries (as ++ bs)) env) := by
      rw [find?_merged hout henv, if_neg hj]
    have hfile := hsame n hn [] rfl
    rw [Value.mergeEntries_nil, Value.mergeEntries_nil] at hfile
    have hcollector : f.name ≠ "collector_url" := fun heq => hf (@Field.name_injective f .collectorUrl heq)
    rw [refusedAt?, refusedAt?, hsame n hn env henv, hsame _ hcollector env henv, hfile]

/-! ## Zero and the standard value -/

namespace Kind

/-- Zero, or the empty text. -/
def IsZero : (k : Kind) → k.Carrier → Prop
  | text => fun s : String => s = ""
  | natural _ => fun n : Nat => n = 0
  | _ => fun _ => False

instance : (k : Kind) → (x : k.Carrier) → Decidable (k.IsZero x)
  | .text, s => instDecidableEqString s ""
  | .natural _, n => Nat.decEq n 0
  | .naturals _, _ => instDecidableFalse
  | .truth, _ => instDecidableFalse
  | .level, _ => instDecidableFalse

/-- The standard value stands in the place of zero. -/
theorem orStandard_of_isZero {k : Kind} {x : k.Carrier} (h : k.IsZero x) (d : k.Carrier) : k.orStandard x d = d := by
  cases k with
  | text =>
    obtain rfl : x = "" := h
    rfl
  | natural bits =>
    obtain rfl : x = (0 : Nat) := h
    rfl
  | _ => exact h.elim

theorem orStandard_self {k : Kind} (d : k.Carrier) : k.orStandard d d = d := by
  cases k with
  | text => exact ite_self _
  | natural bits => exact ite_self _
  | _ => rfl

theorem orText_ne_empty (s : String) {d : String} (hd : d ≠ "") : orText s d ≠ "" := by
  unfold orText
  split
  · exact hd
  · next hs =>
    rintro rfl
    exact hs rfl

/-- What stands in the place of zero is not zero. -/
theorem not_isZero_orStandard {k : Kind} {d : k.Carrier} (h : ¬ k.IsZero d) (x : k.Carrier) :
    ¬ k.IsZero (k.orStandard x d) := by
  cases k with
  | text => exact orText_ne_empty x h
  | natural bits => exact orNumber_ne_zero x h
  | _ => exact id

end Kind

namespace Field

/-- Neither the address of the collector nor the level has a value that stands in the place of zero. -/
theorem ne_collectorUrl {f : Field} (hf : f.isFilled = true) : f ≠ .collectorUrl := by
  rintro rfl
  exact Bool.noConfusion hf

theorem ne_logLevel {f : Field} (hf : f.isFilled = true) : f ≠ .logLevel := by
  rintro rfl
  exact Bool.noConfusion hf

/-- No standard value that stands in the place of zero is zero. -/
theorem not_isZero_standard {f : Field} (hf : f.isFilled = true) : ¬ f.kind.IsZero f.standard := by
  cases f <;> first | exact Bool.noConfusion hf | decide

/-- Zero and the standard value are the same setting. -/
theorem filled_eq_standard {f : Field} (hf : f.isFilled = true) {x : f.kind.Carrier}
    (hx : f.kind.IsZero x ∨ x = f.standard) : f.filled x = f.standard := by
  unfold filled
  rw [if_pos hf]
  rcases hx with hx | rfl
  · exact Kind.orStandard_of_isZero hx _
  · exact Kind.orStandard_self _

theorem not_isZero_filled {f : Field} (hf : f.isFilled = true) (x : f.kind.Carrier) : ¬ f.kind.IsZero (f.filled x) := by
  unfold filled
  rw [if_pos hf]
  exact Kind.not_isZero_orStandard (not_isZero_standard hf) x

end Field

/-! ## Loading -/

/-- The ways in which a document can leave a field at its standard value, with the pairs that it has besides: it does
not set the field, it sets it to zero, or it sets it to the standard value. -/
inductive Leaves (f : Field) (others : List (Node × Node)) (file : Bytes) : Prop
  | omits (pairs : documentPairs? file = some others)
  | sets {before after : List (Node × Node)} {key value : Node} {v : Value} {x : f.kind.Carrier}
      (pairs : documentPairs? file = some (before ++ (key, value) :: after)) (besides : others = before ++ after)
      (name : key? key = some f.name) (means : nodeValue? (deepest - 1) value = some v)
      (read : f.kind.read? v = some x) (standard : f.kind.IsZero x ∨ x = f.standard)

/-- Nothing is loaded from what is no document with a mapping. -/
theorem load_of_documentPairs?_eq_none {file : Bytes} (h : documentPairs? file = none) (path : String)
    (vars : List (String × String)) (say : Unreadable → String) :
    load path (some file) vars say = .error (.unreadable (say (.document path file))) := by
  refine load_of_fileEntries?_eq_none path vars say ?_
  rw [fileEntries?_eq, h]
  rfl

/-- A field that is set to zero or to the standard value makes no difference. -/
theorem made?_eq {f : Field} (hf : f.isFilled = true) {vars : List (String × String)}
    (henv : Table.find? f.name (Environment.settings vars) = none) {as bs : List (String × Value)}
    (hout : f.name ∉ (as ++ bs).map Prod.fst) {v : Value} {x : f.kind.Carrier} (hread : f.kind.read? v = some x)
    (hx : f.kind.IsZero x ∨ x = f.standard) :
    made? (Value.ofEntries (as ++ (f.name, v) :: bs)) vars = made? (Value.ofEntries (as ++ bs)) vars := by
  have hcollector := Field.ne_collectorUrl hf
  have hnone := find?_merged_of_not_mem hout henv
  unfold made?
  rw [ofEntries?_merged hout henv, ofEntries?_put_of_read? hcollector (Field.ne_logLevel hf) hnone hread,
    Option.map_map]
  refine Option.map_congr fun ⟨c, w⟩ hc => ?_
  -- where it is not set, the field has the standard value already
  have hstandard : f.get c = f.standard := by
    have hget := (ofEntries?_eq_some_iff.mp hc).1 f
    rw [Field.setting?_of_ne hcollector, field, hnone] at hget
    exact (Option.some.inj hget).symm
  have hsame : (f.set x c).withDefaults = c.withDefaults := by
    rw [Field.withDefaults_set, Field.filled_eq_standard hf hx]
    refine eq_of_get fun g => ?_
    by_cases hg : g = f
    · subst hg
      rw [Field.get_set_self, Field.get_withDefaults, hstandard, Field.filled_eq_standard hf (Or.inr rfl)]
    · rw [Field.get_set_of_ne hg]
  exact congrArg (·, w) hsame

/-- A document that leaves a field at its standard value, whichever way, makes up what the other pairs do, and the same
is at fault. -/
theorem fileEntries?_of_leaves {f : Field} (hf : f.isFilled = true) {vars : List (String × String)}
    (henv : Table.find? f.name (Environment.settings vars) = none) {others : List (Node × Node)}
    (hothers : ∀ p ∈ others, key? p.1 ≠ some f.name) {file : Bytes} (h : Leaves f others file)
    {rest : List (String × Value)} (hrest : pairValues? (deepest - 1) others = some rest) :
    ∃ es, fileEntries? file = some es ∧ made? es vars = made? (Value.ofEntries rest) vars ∧
      ∀ path, refused? path es (Environment.settings vars) =
        refused? path (Value.ofEntries rest) (Environment.settings vars) := by
  rw [fileEntries?_eq]
  cases h with
  | omits pairs =>
    rw [pairs, Option.bind_some, hrest]
    exact ⟨_, rfl, rfl, fun _ => rfl⟩
  | @sets before after key value v x pairs besides name means read standard =>
    subst besides
    have hread := Option.isSome_iff_exists.mpr ⟨rest, hrest⟩
    obtain ⟨as, bs, hout, hboth, hall⟩ := exists_pairValues? hothers hread name means
    obtain rfl := Option.some.inj (hrest.symm.trans hboth)
    rw [pairs, Option.bind_some, hall]
    exact ⟨_, rfl, made?_eq hf henv hout read standard,
      refused?_eq_of_read? (Field.ne_collectorUrl hf) hout henv read⟩

/-- A document is no table of settings if the pairs are none that it has besides. -/
theorem fileEntries?_eq_none_of_leaves {f : Field} {others : List (Node × Node)} {file : Bytes}
    (h : Leaves f others file) (hrest : pairValues? (deepest - 1) others = none) : fileEntries? file = none := by
  rw [fileEntries?_eq]
  cases h with
  | omits pairs =>
    rw [pairs, Option.bind_some, hrest]
    rfl
  | @sets before after key value v x pairs besides name means read standard =>
    subst besides
    rw [pairs, Option.bind_some, pairValues?_eq_none (Or.inr (Option.not_isSome_iff_eq_none.mpr hrest))]
    rfl

/-- **The ways to leave a field at its standard value are one**, if the other pairs of the documents can be read. -/
theorem load_eq_of_leaves {f : Field} (hf : f.isFilled = true) {vars : List (String × String)}
    (henv : Table.find? f.name (Environment.settings vars) = none) {others : List (Node × Node)}
    (hothers : ∀ p ∈ others, key? p.1 ≠ some f.name) (hread : (pairValues? (deepest - 1) others).isSome)
    {file file' : Bytes} (h : Leaves f others file) (h' : Leaves f others file') (path : String)
    (say : Unreadable → String) : load path (some file) vars say = load path (some file') vars say := by
  obtain ⟨rest, hrest⟩ := Option.isSome_iff_exists.mp hread
  obtain ⟨es, hes, hmade, hrefused⟩ := fileEntries?_of_leaves hf henv hothers h hrest
  obtain ⟨es', hes', hmade', hrefused'⟩ := fileEntries?_of_leaves hf henv hothers h' hrest
  exact load_congr path vars say hes hes' (hmade.trans hmade'.symm) ((hrefused path).trans (hrefused' path).symm)

/-- Nothing is loaded from either document if their other pairs cannot be read. -/
theorem load_of_leaves_of_unreadable {f : Field} {others : List (Node × Node)} {file : Bytes}
    (h : Leaves f others file) (hrest : ¬ (pairValues? (deepest - 1) others).isSome) (path : String)
    (vars : List (String × String)) (say : Unreadable → String) :
    load path (some file) vars say = .error (.unreadable (say (.document path file))) :=
  load_of_fileEntries?_eq_none path vars say
    (fileEntries?_eq_none_of_leaves h (Option.not_isSome_iff_eq_none.mp hrest))

/-! ## What was loaded -/

/-- What a configuration has that can be worked with. -/
structure Complete (c : Config) : Prop where
  filled : ∀ f : Field, f.isFilled = true → ¬ f.kind.IsZero (f.get c)
  router : isBlankText c.routerId = false
  collector : c.collectorUrl.startsWith "http://" = true ∨ c.collectorUrl.startsWith "https://" = true
  token : c.authToken ≠ ""
  groups : c.nflogGroups ≠ []
  metrics : (Net.SocketAddress.ofText? c.metricsBind.toList).isSome = true

/-- A configuration without a fault has a name, the address of a collector, and so on. -/
theorem of_fault?_eq_none {c : Config} (h : c.fault? = none) :
    isBlankText c.routerId = false ∧
      (c.collectorUrl.startsWith "http://" = true ∨ c.collectorUrl.startsWith "https://" = true) ∧
      c.authToken ≠ "" ∧ c.nflogGroups ≠ [] ∧ (Net.SocketAddress.ofText? c.metricsBind.toList).isSome = true := by
  unfold fault? at h
  split at h
  · exact absurd h (by simp)
  next hrouter =>
  split at h
  · exact absurd h (by simp)
  next =>
  split at h
  · exact absurd h (by simp)
  next hcollector =>
  split at h
  · exact absurd h (by simp)
  next htoken =>
  split at h
  · exact absurd h (by simp)
  next hgroups =>
  split at h
  · exact absurd h (by simp)
  next hmetrics =>
  have hurl : c.collectorUrl.startsWith "http://" = true ∨ c.collectorUrl.startsWith "https://" = true := by
    simpa only [Bool.not_eq_true', Bool.not_eq_false, Bool.or_eq_true] using hcollector
  exact ⟨by simpa using hrouter, hurl, by simpa using htoken, by simpa using hgroups,
    Option.isSome_iff_ne_none.mpr (mt Option.isNone_iff_eq_none.mpr hmetrics)⟩

/-- A configuration that was loaded is complete. -/
theorem Complete.of_load {path : String} {file : Option Bytes} {vars : List (String × String)}
    {say : Unreadable → String} {c : Config} {w : Option String} (h : load path file vars say = .ok (c, w)) :
    c.Complete := by
  obtain ⟨bytes, es, c₀, -, -, -, rfl, hfault⟩ := load_eq_ok_iff.mp h
  obtain ⟨hrouter, hcollector, htoken, hgroups, hmetrics⟩ := of_fault?_eq_none hfault
  refine ⟨fun f hf => ?_, hrouter, hcollector, htoken, hgroups, hmetrics⟩
  rw [Field.get_withDefaults]
  exact Field.not_isZero_filled hf _

/-- **Not to set a field, to set it to zero and to set it to its standard value are the same**, if the environment does
not set it: what is loaded is the same, or the error is, in whatever words it is put. Only where the other pairs cannot
be read each document has its own error; so has what is no document with a mapping, or follows too many aliases. And
what is loaded is complete. -/
theorem unset_zero_and_standard_alike (path : String) (vars : List (String × String)) (say : Unreadable → String) :
    (∀ (f : Field) (others : List (Node × Node)) (file file' : Bytes),
      f.isFilled = true → Table.find? f.name (Environment.settings vars) = none →
      (∀ p ∈ others, key? p.1 ≠ some f.name) → Leaves f others file → Leaves f others file' →
        if (pairValues? (deepest - 1) others).isSome then
          load path (some file) vars say = load path (some file') vars say
        else load path (some file) vars say = .error (.unreadable (say (.document path file))) ∧
          load path (some file') vars say = .error (.unreadable (say (.document path file')))) ∧
    (∀ file : Bytes, documentPairs? file = none →
      load path (some file) vars say = .error (.unreadable (say (.document path file)))) ∧
    (∀ (file : Option Bytes) (c : Config) (w : Option String), load path file vars say = .ok (c, w) → c.Complete) := by
  refine ⟨fun f others file file' hf henv hothers h h' => ?_, fun file h => ?_, fun file c w h => ?_⟩
  · split
    · next hread => exact load_eq_of_leaves hf henv hothers hread h h' path say
    · next hrest =>
      exact ⟨load_of_leaves_of_unreadable h hrest path vars say, load_of_leaves_of_unreadable h' hrest path vars say⟩
  · exact load_of_documentPairs?_eq_none h path vars say
  · exact Complete.of_load h

/-- A plain word. -/
def word (s : String) : Node :=
  .scalar none true s

/-- The pairs of a small document. -/
def smallPairs : List (Node × Node) :=
  [(word "router_id", word "r"), (word "collector_url", word "http://c"), (word "auth_token", word "t"),
    (word "nflog_groups", .sequence none [word "1"])]

/-- The configuration that they make up. -/
def smallConfig : Config :=
  { routerId := "r", collectorUrl := "http://c", authToken := "t", nflogGroups := [1] }

/-- The bytes of lines. -/
def bytesOfLines (lines : List String) : Bytes :=
  lines.flatMap fun line => encodeUtf8 (line.toList ++ ['\n'])

/-- A small document, and another one that sets how many events wait to zero. -/
def smallDocument : Bytes :=
  bytesOfLines ["router_id: r", "collector_url: http://c", "auth_token: t", "nflog_groups: [1]"]

def zeroDepthDocument : Bytes :=
  bytesOfLines ["queue_depth: 0"] ++ smallDocument

theorem documentPairs?_smallDocument : documentPairs? smallDocument = some smallPairs := by
  decide +kernel

theorem documentPairs?_zeroDepthDocument :
    documentPairs? zeroDepthDocument = some ([] ++ (word "queue_depth", word "0") :: smallPairs) := by
  decide +kernel

theorem nodeValue?_zero : nodeValue? (deepest - 1) (word "0") = some (.integer 0) :=
  rfl

/-- Not to set how many events wait, and to set it to zero. -/
theorem zero_depth_is_standard_depth :
    Field.queueDepth.isFilled = true ∧
      Table.find? Field.queueDepth.name (Environment.settings [("HOME", "/")]) = none ∧
      (∀ p ∈ smallPairs, key? p.1 ≠ some Field.queueDepth.name) ∧
      Leaves .queueDepth smallPairs smallDocument ∧ Leaves .queueDepth smallPairs zeroDepthDocument ∧
      load "c" (some zeroDepthDocument) [("HOME", "/")] = load "c" (some smallDocument) [("HOME", "/")] ∧
      (∃ c : Config, load "c" (some smallDocument) [("HOME", "/")] = .ok (c, none) ∧ c.queueDepth = 2000 ∧
        c.Complete) ∧
      documentPairs? [] = some [] ∧ documentPairs? [0xff] = none ∧
      load "c" (some [0xff]) [] = .error (.unreadable "c is not a table of settings") := by
  have henv : Table.find? Field.queueDepth.name (Environment.settings [("HOME", "/")]) = none := by decide +kernel
  have hothers : ∀ p ∈ smallPairs, key? p.1 ≠ some Field.queueDepth.name := by decide
  have hrest : (pairValues? (deepest - 1) smallPairs).isSome = true := by decide +kernel
  have hsmall : Leaves .queueDepth smallPairs smallDocument := .omits documentPairs?_smallDocument
  have hread : Field.queueDepth.kind.read? (.integer 0) = some (0 : Nat) := rfl
  have hzero : Leaves .queueDepth smallPairs zeroDepthDocument :=
    .sets documentPairs?_zeroDepthDocument rfl rfl nodeValue?_zero hread (Or.inl rfl)
  have hload : load "c" (some smallDocument) [("HOME", "/")] = .ok (smallConfig, none) := by decide +kernel
  have hsame := (unset_zero_and_standard_alike "c" [("HOME", "/")] Unreadable.text).1 .queueDepth smallPairs
    zeroDepthDocument smallDocument rfl henv hothers hzero hsmall
  rw [if_pos hrest] at hsame
  have hcomplete :=
    (unset_zero_and_standard_alike "c" [("HOME", "/")] Unreadable.text).2.2 (some smallDocument) _ _ hload
  have hnone : documentPairs? [0xff] = none := by decide +kernel
  have hrefused := (unset_zero_and_standard_alike "c" [] Unreadable.text).2.1 [0xff] hnone
  exact ⟨rfl, henv, hothers, hsmall, hzero, hsame, ⟨_, hload, rfl, hcomplete⟩, rfl, hnone, hrefused⟩

/-- The small document with a list of lists, in each of which the one before it stands seven times. -/
def repetitiveDocument : Bytes :=
  smallDocument ++ bytesOfLines ["a: &a []", "b: &b [*a,*a,*a,*a,*a,*a,*a]", "c: &c [*b,*b,*b,*b,*b,*b,*b]",
    "d: &d [*c,*c,*c,*c,*c,*c,*c]", "e: &e [*d,*d,*d,*d,*d,*d,*d]", "f: [*e]"]

/-- The same document, which sets how many events wait to zero as well. -/
def zeroDepthRepetitiveDocument : Bytes :=
  bytesOfLines ["queue_depth: 0"] ++ repetitiveDocument

theorem documentPairs?_repetitiveDocument : documentPairs? repetitiveDocument = none := by
  -- to count the aliases is less work than to follow them
  simp only [documentPairs?, Node.ofText?_eq]
  decide +kernel

theorem load_zeroDepthRepetitiveDocument :
    load "c" (some zeroDepthRepetitiveDocument) [] = .ok (smallConfig, none) := by
  have hmade : (fileEntries? zeroDepthRepetitiveDocument).map (made? · []) = some (some (smallConfig, none)) := by
    simp only [fileEntries?_eq, documentPairs?, Node.ofText?_eq]
    decide +kernel
  obtain ⟨es, hes, hmade⟩ := Option.map_eq_some_iff.mp hmade
  have hvalid : smallConfig.validate = .ok smallConfig := by decide +kernel
  rw [load_of_fileEntries? "c" [] Unreadable.text hes, hmade]
  show (do let c ← smallConfig.validate; pure (c, none)) = _
  rw [hvalid]
  rfl

/-- **Setting a field to zero can make room for aliases.** There are 6063 of them to follow in the document, a hundred
for each of its 59 events are allowed, and two more events allow for the rest. And where a document cannot be read, what
is said of it may be different as soon as it is told where, since that is further on. -/
theorem zero_depth_beside_aliases :
    load "c" (some repetitiveDocument) [] = .error (.unreadable "c is not a table of settings") ∧
      load "c" (some zeroDepthRepetitiveDocument) [] = .ok (smallConfig, none) ∧
      ∃ say : Unreadable → String, load "c" (some (bytesOfLines ["router_id: !x r"])) [] say ≠
        load "c" (some (bytesOfLines ["queue_depth: 0", "router_id: !x r"])) [] say := by
  refine ⟨load_of_documentPairs?_eq_none documentPairs?_repetitiveDocument "c" [] Unreadable.text,
    load_zeroDepthRepetitiveDocument, ?_⟩
  -- a reader that tells how long the document is
  refine ⟨fun cause => match cause with
    | .document _ bytes => toString bytes.length
    | _ => cause.text, ?_⟩
  decide +kernel

end RouterTelemetry.Config
