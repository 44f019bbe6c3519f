import Mathlib.Algebra.Group.Int.Defs
import RouterTelemetry.Proofs.Config.UnsetFields
import RouterTelemetry.Proofs.Text.Lowercase
/-!
# Levels that are no level

A document may say anything of the level. What names no level leads to a complaint, and the rest of what is loaded is as
without it. Only what cannot be read at all is not put up with: collections too deep inside each other or as keys, and
integers that do not fit sixty-four bits. Main statements:

* `LogLevel.ofText?_eq_some_iff` : which texts name a level;
* `Value.isSome_toJson?_iff` : the values that reach the reader of a level are those whose integers fit;
* `isSome_nodeValue?_iff` : nodes without tags that stand for a value;
* `ofEntries?_put_level` : what a level changes in what is read;
* `level_put_up_with` : what is loaded with a level and without it;
* `level_not_put_up_with` : nothing is loaded with an integer of sixty-five bits for a level.
-/

namespace RouterTelemetry

open Text

/-! ## Names of levels -/

namespace LogLevel

/-- The names of a level. -/
def names : LogLevel → List String
  | error => ["error"]
  | warn => ["warn", "warning"]
  | info => ["info"]
  | debug => ["debug"]
  | trace => ["trace"]

/-- Whether a text names a level: it is one of its names, but for blanks around it and for the case of letters. -/
def Named (l : LogLevel) (s : String) : Prop :=
  ∃ n ∈ l.names, (trim s.toList).map Char.toLower = n.toList

/-- Names are in small letters of the basic alphabet, and without the one letter that is also the lowercase form of
another character than its capital. -/
theorem names_basic (l : LogLevel) : ∀ n ∈ l.names, ∀ c ∈ n.toList, c.toNat < 0x80 ∧ c ≠ 'k' := by
  cases l <;> simp [names]

theorem ofText?_eq_some_iff_lowercase {s : String} {l : LogLevel} :
    ofText? s = some l ↔ ∃ n ∈ l.names, lowercase (trim s.toList) = n.toList := by
  constructor
  · intro h
    unfold ofText? at h
    split at h
    case h_7 => exact absurd h (by simp)
    all_goals
      next hs =>
      obtain rfl := Option.some.inj h
      have hlist := congrArg String.toList hs
      rw [String.toList_ofList] at hlist
      exact ⟨_, by simp [names], hlist⟩
  · rintro ⟨n, hn, hs⟩
    unfold ofText?
    rw [hs, String.ofList_toList]
    cases l <;> simp only [names, List.mem_cons, List.not_mem_nil, or_false] at hn
    case warn => rcases hn with rfl | rfl <;> rfl
    all_goals subst hn; rfl

/-- **Which texts name a level.** -/
theorem ofText?_eq_some_iff {s : String} {l : LogLevel} : ofText? s = some l ↔ l.Named s := by
  rw [ofText?_eq_some_iff_lowercase]
  refine exists_congr fun n => and_congr_right fun hn => ?_
  exact lowercase_eq_iff (names_basic l n hn) _

end LogLevel

namespace Config

open Yaml (Node deepest)

/-! ## Values -/

namespace Value

/-- The integers in a value. -/
inductive Holds : Value → Int → Prop
  | integer (n : Int) : Holds (.integer n) n
  | item {items : List Value} {v : Value} {n : Int} (mem : v ∈ items) (holds : Holds v n) : Holds (.list items) n
  | entry {entries : List (String × Value)} {e : String × Value} {n : Int} (mem : e ∈ entries)
      (holds : Holds e.2 n) : Holds (.table entries) n

/-- Whether an integer fits sixty-four bits, with a sign or without. -/
def FitsWord (n : Int) : Prop :=
  -2 ^ 63 ≤ n ∧ n < 2 ^ 64

theorem isSome_itemsToJson?_iff {items : List Value} :
    (itemsToJson? items).isSome ↔ ∀ v ∈ items, v.toJson?.isSome := by
  induction items with
  | nil => simp [itemsToJson?]
  | cons v rest ih =>
    rw [List.forall_mem_cons, ← ih, itemsToJson?]
    cases toJson? v <;> cases itemsToJson? rest <;> simp

theorem sizeOf_snd_lt {entries : List (String × Value)} {e : String × Value} (h : e ∈ entries) :
    sizeOf e.2 < sizeOf entries := by
  have hentry := List.sizeOf_lt_of_mem h
  obtain ⟨k, v⟩ := e
  rw [Prod.mk.sizeOf_spec] at hentry
  show sizeOf v < sizeOf entries
  omega

/-- **The values that reach the reader of a level are those whose integers fit.** -/
theorem isSome_toJson?_iff (v : Value) : v.toJson?.isSome ↔ ∀ n, v.Holds n → FitsWord n := by
  -- by recursion over the value: items and entries are smaller than what they are in
  match v with
  | .null | .bool _ | .real _ | .unbounded | .text _ =>
    refine ⟨fun _ n h => ?_, fun _ => rfl⟩
    cases h
  | .integer i =>
    have hlow : (-(Nat.pow 2 63 : Int)) = -2 ^ 63 := rfl
    have hhigh : (Nat.pow 2 64 : Int) = 2 ^ 64 := rfl
    rw [toJson?, hlow, hhigh, Option.isSome_ite]
    constructor
    · intro hfits n h
      cases h
      exact hfits
    · exact fun h => h i (.integer i)
  | .list items =>
    rw [toJson?, Option.isSome_map, isSome_itemsToJson?_iff]
    constructor
    · intro hitems n h
      cases h with
      | item mem holds => exact (isSome_toJson?_iff _).mp (hitems _ mem) n holds
    · exact fun h w hw => (isSome_toJson?_iff w).mpr fun n holds => h n (.item hw holds)
  | .table entries =>
    rw [toJson?_table, Option.isSome_map, isSome_entriesToJson?_iff]
    constructor
    · intro hentries n h
      cases h with
      | entry mem holds =>
        have hlt := sizeOf_snd_lt mem
        exact (isSome_toJson?_iff _).mp (hentries _ mem) n holds
    · intro h e he
      have hlt := sizeOf_snd_lt he
      exact (isSome_toJson?_iff e.2).mpr fun n holds => h n (.entry he holds)
termination_by sizeOf v

end Value

/-! ## What values make of the level -/

/-- What a value makes of the level, and the complaint about it: a text that names no level and what is no text at all
make it the standard one. -/
inductive Means : Value → LogLevel → Option String → Prop
  | named {s : String} {l : LogLevel} (name : l.Named s) : Means (.text s) l none
  | nameless {s : String} (name : ∀ l : LogLevel, ¬ l.Named s) :
      Means (.text s) .info (some (LogLevel.unknownMessage s))
  | other {v : Value} {j : Json} (text : ∀ s, v ≠ .text s) (json : v.toJson? = some j) :
      Means v .info (some (LogLevel.notTextMessage j.sorted))

theorem ofSetting_of_not_string {j : Json} (h : ∀ s, j ≠ .string s) :
    LogLevel.ofSetting j = (.info, some (LogLevel.notTextMessage j)) := by
  cases j with
  | string s => exact absurd rfl (h s)
  | _ => rfl

/-- Only texts are texts in JSON. -/
theorem sorted_ne_string {v : Value} (h : ∀ s, v ≠ .text s) {j : Json} (hj : v.toJson? = some j) (s : String) :
    j.sorted ≠ .string s := by
  cases v with
  | text t => exact absurd rfl (h t)
  | null | bool _ | real _ | unbounded =>
    obtain rfl := Option.some.inj hj
    exact nofun
  | integer n =>
    obtain ⟨-, hint⟩ := Option.ite_none_right_eq_some.mp hj
    obtain rfl := Option.some.inj hint
    unfold Json.int
    split <;> exact nofun
  | list items =>
    obtain ⟨js, -, rfl⟩ := Option.map_eq_some_iff.mp hj
    exact nofun
  | table entries =>
    obtain ⟨js, -, rfl⟩ := Option.map_eq_some_iff.mp hj
    exact nofun

theorem means_ofSetting {v : Value} {j : Json} (h : v.toJson? = some j) :
    Means v (LogLevel.ofSetting j.sorted).1 (LogLevel.ofSetting j.sorted).2 := by
  by_cases htext : ∃ s, v = .text s
  · obtain ⟨s, rfl⟩ := htext
    obtain rfl := Option.some.inj h
    show Means _ (LogLevel.ofSetting (.string s)).1 (LogLevel.ofSetting (.string s)).2
    cases hs : LogLevel.ofText? s with
    | some l =>
      simp only [LogLevel.ofSetting, hs]
      exact .named (LogLevel.ofText?_eq_some_iff.mp hs)
    | none =>
      simp only [LogLevel.ofSetting, hs]
      refine .nameless fun l hl => ?_
      rw [LogLevel.ofText?_eq_some_iff.mpr hl] at hs
      exact absurd hs (by simp)
  · have hother : ∀ s, v ≠ .text s := fun s hs => htext ⟨s, hs⟩
    rw [ofSetting_of_not_string (sorted_ne_string hother h)]
    exact .other hother h

/-- A value makes one thing of the level. -/
theorem Means.unique {v : Value} {l l' : LogLevel} {w w' : Option String} (h : Means v l w) (h' : Means v l' w') :
    l = l' ∧ w = w' := by
  cases h with
  | @named s l name =>
    cases h' with
    | named name' =>
      rw [← LogLevel.ofText?_eq_some_iff] at name name'
      exact ⟨Option.some.inj (name.symm.trans name'), rfl⟩
    | nameless name' => exact absurd name (name' l)
    | other text _ => exact absurd rfl (text s)
  | @nameless s name =>
    cases h' with
    | named name' => exact absurd name' (name _)
    | nameless => exact ⟨rfl, rfl⟩
    | other text _ => exact absurd rfl (text s)
  | other text json =>
    cases h' with
    | named => exact absurd rfl (text _)
    | nameless => exact absurd rfl (text _)
    | other _ json' =>
      obtain rfl := Option.some.inj (json.symm.trans json')
      exact ⟨rfl, rfl⟩

/-! ## Nodes -/

/-- Nodes without tags. -/
inductive Untagged : Node → Prop
  | scalar (plain : Bool) (s : String) : Untagged (.scalar none plain s)
  | sequence {ns : List Node} (items : ∀ n ∈ ns, Untagged n) : Untagged (.sequence none ns)
  | mapping {ps : List (Node × Node)} (keys : ∀ p ∈ ps, Untagged p.1) (values : ∀ p ∈ ps, Untagged p.2) :
      Untagged (.mapping none ps)

/-- Nodes with at most `room` collections inside each other, of which none is a key. -/
inductive Shallow : Nat → Node → Prop
  | scalar (room : Nat) (tag : Option String) (plain : Bool) (s : String) : Shallow room (.scalar tag plain s)
  | sequence {room : Nat} {tag : Option String} {ns : List Node} (items : ∀ n ∈ ns, Shallow room n) :
      Shallow (room + 1) (.sequence tag ns)
  | mapping {room : Nat} {tag : Option String} {ps : List (Node × Node)}
      (keys : ∀ p ∈ ps, ∃ tag plain s, p.1 = .scalar tag plain s) (values : ∀ p ∈ ps, Shallow room p.2) :
      Shallow (room + 1) (.mapping tag ps)

theorem isSome_key?_iff {n : Node} : (key? n).isSome ↔ ∃ tag plain s, n = .scalar tag plain s := by
  cases n <;> simp [key?]

theorem isSome_itemValues?_iff {room : Nat} {ns : List Node} :
    (itemValues? room ns).isSome ↔ ∀ n ∈ ns, (nodeValue? room n).isSome := by
  induction ns with
  | nil => simp [itemValues?]
  | cons n rest ih =>
    rw [List.forall_mem_cons, ← ih, itemValues?]
    cases nodeValue? room n <;> cases itemValues? room rest <;> simp

/-- **Which nodes without tags stand for a value.** -/
theorem isSome_nodeValue?_iff {n : Node} (h : Untagged n) (room : Nat) :
    (nodeValue? room n).isSome ↔ Shallow room n := by
  induction h generalizing room with
  | scalar plain s => exact ⟨fun _ => .scalar room none plain s, fun _ => rfl⟩
  | @sequence ns _ ih =>
    cases room with
    | zero => exact ⟨nofun, nofun⟩
    | succ room =>
      have hvalue : nodeValue? (room + 1) (.sequence none ns) = (itemValues? room ns).map .list := by
        simp [nodeValue?, isReadableTag]
      rw [hvalue, Option.isSome_map, isSome_itemValues?_iff]
      constructor
      · exact fun hitems => .sequence fun n hn => (ih n hn room).mp (hitems n hn)
      · intro hshallow
        cases hshallow with
        | sequence items => exact fun n hn => (ih n hn room).mpr (items n hn)
  | @mapping ps _ _ _ ih =>
    cases room with
    | zero => exact ⟨nofun, nofun⟩
    | succ room =>
      have hvalue : nodeValue? (room + 1) (.mapping none ps) =
          (pairValues? room ps).map fun es => .table (Value.ofEntries es) := by
        simp [nodeValue?, isReadableTag]
      rw [hvalue, Option.isSome_map, isSome_pairValues?_iff]
      constructor
      · intro hpairs
        refine .mapping (fun p hp => isSome_key?_iff.mp (hpairs p hp).1) fun p hp => ?_
        exact (ih p hp room).mp (hpairs p hp).2
      · intro hshallow
        cases hshallow with
        | mapping keys values =>
          exact fun p hp => ⟨isSome_key?_iff.mpr (keys p hp), (ih p hp room).mpr (values p hp)⟩

/-! ## Reading -/

/-- What was read, with another level and another complaint. -/
def leveled (setting : LogLevel × Option String) (read : Config × Option String) : Config × Option String :=
  ({ read.1 with logLevel := setting.1 }, setting.2)

/-- A value that can be written as JSON can be read as a level. -/
theorem read?_level {v : Value} {j : Json} (hj : v.toJson? = some j) :
    Field.logLevel.kind.read? v = some (LogLevel.ofSetting j.sorted).1 := by
  show (v.toJson?.map fun j => (LogLevel.ofSetting j.sorted).1) = _
  rw [hj]
  rfl

theorem set_logLevel (l : LogLevel) (c : Config) : Field.logLevel.set l c = { c with logLevel := l } := by
  refine eq_of_get fun g => ?_
  cases g <;> rfl

/-- **What a level changes in what is read**: nothing but the level, if it can be written as JSON. -/
theorem ofEntries?_put_level {es : List (String × Value)} (hnone : Table.find? "log_level" es = none) (v : Value) :
    ofEntries? (Table.put "log_level" v es) =
      v.toJson?.bind fun j => (ofEntries? es).map (leveled (LogLevel.ofSetting j.sorted)) := by
  have hlevel : logLevel? (Table.put "log_level" v es) = v.toJson?.map fun j => LogLevel.ofSetting j.sorted := by
    rw [logLevel?, Table.find?_put, if_pos rfl]
  cases hj : v.toJson? with
  | none =>
    -- without a level there is no configuration, whatever the other fields are
    rw [Option.bind_none, Option.eq_none_iff_forall_ne_some]
    rintro ⟨c, w⟩ hput
    obtain ⟨-, hsome⟩ := ofEntries?_eq_some_iff.mp hput
    rw [hlevel, hj] at hsome
    exact absurd hsome (by simp)
  | some j =>
    have hput := ofEntries?_put_eq (f := .logLevel) (by decide) hnone (read?_level hj)
    rw [show Field.logLevel.name = "log_level" from rfl, hlevel, hj] at hput
    rw [hput, Option.bind_some]
    cases ofEntries? es with
    | none => rfl
    | some cw => exact congrArg (fun c => some (c, _)) (set_logLevel _ cw.1)

/-! ## Loading -/

variable {vars : List (String × String)} {before after : List (Node × Node)} {key value : Node} {bare file : Bytes}

theorem made?_level (henv : Table.find? "log_level" (Environment.settings vars) = none)
    {as bs : List (String × Value)} (hout : "log_level" ∉ (as ++ bs).map Prod.fst) (v : Value) :
    made? (Value.ofEntries (as ++ ("log_level", v) :: bs)) vars =
      v.toJson?.bind fun j =>
        (made? (Value.ofEntries (as ++ bs)) vars).map (leveled (LogLevel.ofSetting j.sorted)) := by
  unfold made?
  rw [ofEntries?_merged hout henv, ofEntries?_put_level (find?_merged_of_not_mem hout henv)]
  cases v.toJson? with
  | none => rfl
  | some j => cases ofEntries? (Value.mergeEntries (Value.ofEntries (as ++ bs)) (Environment.settings vars)) <;> rfl

/-- A level changes nothing in what is at fault, if it can be written as JSON. -/
theorem refused?_level (henv : Table.find? "log_level" (Environment.settings vars) = none)
    {as bs : List (String × Value)} (hout : "log_level" ∉ (as ++ bs).map Prod.fst) {v : Value} {j : Json}
    (hj : v.toJson? = some j) (path : String) :
    refused? path (Value.ofEntries (as ++ ("log_level", v) :: bs)) (Environment.settings vars) =
      refused? path (Value.ofEntries (as ++ bs)) (Environment.settings vars) :=
  refused?_eq_of_read? (f := .logLevel) (by decide) hout henv (read?_level hj) path

/-- What is made up with a level has no other fault than what is made up without. -/
theorem validate_leveled (setting : LogLevel × Option String) (c : Config) :
    ({ c with logLevel := setting.1 } : Config).validate = c.validate.map ({ · with logLevel := setting.1 }) := by
  have hfault : ({ c with logLevel := setting.1 } : Config).fault? = c.fault? := rfl
  rw [validate, validate, hfault]
  cases c.fault? <;> rfl

/-- What is loaded with a level is what is loaded without it, but for the level, or the same is at fault. -/
theorem load_leveled (henv : Table.find? "log_level" (Environment.settings vars) = none)
    {as bs : List (String × Value)} (hout : "log_level" ∉ (as ++ bs).map Prod.fst) {v : Value} {j : Json}
    (hj : v.toJson? = some j) (hbare : fileEntries? bare = some (Value.ofEntries (as ++ bs)))
    (hfile : fileEntries? file = some (Value.ofEntries (as ++ ("log_level", v) :: bs))) (path : String)
    (say : Unreadable → String) :
    load path (some file) vars say =
      (load path (some bare) vars say).map (leveled (LogLevel.ofSetting j.sorted)) := by
  rw [load_of_fileEntries? path vars say hfile, load_of_fileEntries? path vars say hbare, made?_level henv hout, hj,
    Option.bind_some, refused?_level henv hout hj]
  cases hmade : made? (Value.ofEntries (as ++ bs)) vars with
  | none =>
    -- the same setting is at fault in both documents
    obtain ⟨cause, hcause⟩ := exists_refused?_of_made?_eq_none path vars hmade
    rw [hcause]
    rfl
  | some cw =>
    obtain ⟨c, w⟩ := cw
    simp only [Option.map_some, leveled, validate_leveled]
    cases c.validate <;> rfl

/-- Nothing is loaded with a level that cannot be written as JSON. -/
theorem exists_load_eq_error (henv : Table.find? "log_level" (Environment.settings vars) = none)
    {as bs : List (String × Value)} (hout : "log_level" ∉ (as ++ bs).map Prod.fst) {v : Value}
    (hj : v.toJson? = none) (hfile : fileEntries? file = some (Value.ofEntries (as ++ ("log_level", v) :: bs)))
    (path : String) (say : Unreadable → String) :
    ∃ cause, load path (some file) vars say = .error (.unreadable (say cause)) := by
  rw [load_of_fileEntries? path vars say hfile, made?_level henv hout, hj]
  exact ⟨_, rfl⟩

/-- A document is no table of settings if one of its pairs cannot be read. -/
theorem fileEntries?_eq_none (hfile : documentPairs? file = some (before ++ (key, value) :: after))
    (h : nodeValue? (deepest - 1) value = none ∨ ¬ (pairValues? (deepest - 1) (before ++ after)).isSome) :
    fileEntries? file = none := by
  rw [fileEntries?_eq, hfile, Option.bind_some, pairValues?_eq_none h]
  rfl

/-- **A level that is no level is put up with.** A document may say anything of the level that has no tags, if
collections are not too deep inside each other and no keys, and all integers fit sixty-four bits: what is loaded is what
is loaded without it, but for the level and the complaint about it, or the error is the same, in whatever words it is
put. A text that names a level makes it that one, and anything else the standard one. Nothing is loaded if collections
are too deep or keys, or if an integer does not fit. Where the other pairs cannot be read each document has its own
error, and so has what is no document with a mapping, or follows too many aliases. -/
theorem level_put_up_with (path : String) (say : Unreadable → String)
    (henv : Table.find? "log_level" (Environment.settings vars) = none)
    (hothers : ∀ p ∈ before ++ after, key? p.1 ≠ some "log_level") (hname : key? key = some "log_level")
    (hbare : documentPairs? bare = some (before ++ after))
    (hfile : documentPairs? file = some (before ++ (key, value) :: after)) (htags : Untagged value) :
    (if (pairValues? (deepest - 1) (before ++ after)).isSome then
      (Shallow (deepest - 1) value →
        ∃ v, nodeValue? (deepest - 1) value = some v ∧
          ((∀ n, v.Holds n → Value.FitsWord n) →
            ∃ l w, Means v l w ∧
              load path (some file) vars say = (load path (some bare) vars say).map (leveled (l, w))) ∧
          ∀ n, v.Holds n → ¬ Value.FitsWord n →
            ∃ cause, load path (some file) vars say = .error (.unreadable (say cause))) ∧
      (¬ Shallow (deepest - 1) value →
        load path (some file) vars say = .error (.unreadable (say (.document path file))))
    else load path (some bare) vars say = .error (.unreadable (say (.document path bare))) ∧
      load path (some file) vars say = .error (.unreadable (say (.document path file)))) ∧
    ∀ other : Bytes, documentPairs? other = none →
      load path (some other) vars say = .error (.unreadable (say (.document path other))) := by
  refine ⟨?_, fun other hother => load_of_documentPairs?_eq_none hother path vars say⟩
  have hshallow := isSome_nodeValue?_iff htags (deepest - 1)
  split
  · next hread =>
    refine ⟨fun h => ?_, fun h => ?_⟩
    · obtain ⟨v, hv⟩ := Option.isSome_iff_exists.mp (hshallow.mpr h)
      -- the entries of both documents
      obtain ⟨as, bs, hout, hothersValues, hvalues⟩ := exists_pairValues? hothers hread hname hv
      have hbareEntries : fileEntries? bare = some (Value.ofEntries (as ++ bs)) := by
        rw [fileEntries?_eq, hbare, Option.bind_some, hothersValues]
        rfl
      have hfileEntries : fileEntries? file = some (Value.ofEntries (as ++ ("log_level", v) :: bs)) := by
        rw [fileEntries?_eq, hfile, Option.bind_some, hvalues]
        rfl
      refine ⟨v, hv, fun hfits => ?_, fun n hn hlong => ?_⟩
      · obtain ⟨j, hj⟩ := Option.isSome_iff_exists.mp ((Value.isSome_toJson?_iff v).mpr hfits)
        exact ⟨_, _, means_ofSetting hj, load_leveled henv hout hj hbareEntries hfileEntries path say⟩
      · have hnone : v.toJson? = none := by
          rw [← Option.not_isSome_iff_eq_none, Value.isSome_toJson?_iff]
          exact fun hfits => hlong (hfits n hn)
        exact exists_load_eq_error henv hout hnone hfileEntries path say
    · rw [← hshallow, Option.not_isSome_iff_eq_none] at h
      exact load_of_fileEntries?_eq_none path vars say (fileEntries?_eq_none hfile (Or.inl h))
  · next hrest =>
    have hbareEntries : fileEntries? bare = none := by
      rw [fileEntries?_eq, hbare, Option.bind_some, Option.not_isSome_iff_eq_none.mp hrest]
      rfl
    exact ⟨load_of_fileEntries?_eq_none path vars say hbareEntries,
      load_of_fileEntries?_eq_none path vars say (fileEntries?_eq_none hfile (Or.inr hrest))⟩

/-- The small document with a level. -/
def leveledDocument (level : String) : Bytes :=
  encodeUtf8 ("log_level: " ++ level ++ "\n").toList ++ smallDocument

theorem documentPairs?_warning :
    documentPairs? (leveledDocument "\" Warning \"") =
      some ([] ++ (word "log_level", .scalar none false " Warning ") :: smallPairs) := by
  decide +kernel

/-- A level with a capital letter, and with blanks around it. -/
theorem load_of_warning :
    Table.find? "log_level" (Environment.settings [("HOME", "/")]) = none ∧
      (∀ p ∈ [] ++ smallPairs, key? p.1 ≠ some "log_level") ∧ key? (word "log_level") = some "log_level" ∧
      documentPairs? smallDocument = some ([] ++ smallPairs) ∧
      documentPairs? (leveledDocument "\" Warning \"") =
        some ([] ++ (word "log_level", .scalar none false " Warning ") :: smallPairs) ∧
      Untagged (.scalar none false " Warning ") ∧
      load "c" (some (leveledDocument "\" Warning \"")) [("HOME", "/")] =
        (load "c" (some smallDocument) [("HOME", "/")]).map (leveled (.warn, none)) := by
  have henv : Table.find? "log_level" (Environment.settings [("HOME", "/")]) = none := by decide +kernel
  have hothers : ∀ p ∈ [] ++ smallPairs, key? p.1 ≠ some "log_level" := by decide
  have htags : Untagged (.scalar none false " Warning ") := .scalar false " Warning "
  refine ⟨henv, hothers, rfl, documentPairs?_smallDocument, documentPairs?_warning, htags, ?_⟩
  have hrest : (pairValues? (deepest - 1) ([] ++ smallPairs)).isSome = true := by decide +kernel
  have hmain := (level_put_up_with "c" Unreadable.text henv hothers rfl documentPairs?_smallDocument
    documentPairs?_warning htags).1
  rw [if_pos hrest] at hmain
  obtain ⟨v, hv, hload, -⟩ := hmain.1 (.scalar _ none false " Warning ")
  obtain rfl : Value.text " Warning " = v := Option.some.inj hv
  have hfits : ∀ n, (Value.text " Warning ").Holds n → Value.FitsWord n := nofun
  obtain ⟨l, w, hmeans, hload⟩ := hload hfits
  have hwarn : Means (.text " Warning ") .warn none := .named ⟨"warning", by decide, by decide⟩
  obtain ⟨rfl, rfl⟩ := hmeans.unique hwarn
  exact hload

/-- **Nothing is loaded with an integer of sixty-five bits for a level**, and a configuration is without it. -/
theorem level_not_put_up_with :
    documentPairs? (leveledDocument "18446744073709551616") =
        some ([] ++ (word "log_level", word "18446744073709551616") :: smallPairs) ∧
      nodeValue? (deepest - 1) (word "18446744073709551616") = some (.integer (2 ^ 64)) ∧
      (load "c" (some smallDocument) []).isOk = true ∧
      load "c" (some (leveledDocument "18446744073709551616")) [] =
        .error (.unreadable "log_level has the wrong kind") := by
  have hlong : nodeValue? (deepest - 1) (word "18446744073709551616") = some (.integer (2 ^ 64)) := rfl
  exact ⟨by decide +kernel, hlong, by decide +kernel, by decide +kernel⟩

end Config

end RouterTelemetry
