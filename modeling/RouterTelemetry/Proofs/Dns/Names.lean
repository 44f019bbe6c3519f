import RouterTelemetry.Dns.Line
import RouterTelemetry.Proofs.Text.Trim
/-!
# Names in lines

Where the name stands in a line that is a query or a reply, and what becomes of the line when another name
stands there. The readers of a line are `Settled`: what they find in front of a text does not depend on how
the text goes on, so the rest of a line is read in the same way whatever its name is. Main statements:

* `Settled.bind` : readers one after the other are settled if each of them is;
* `shape?_of_spot?` : any name may stand in the place of the name;
* `parse_renameText` : a line with another name is read as what it was, with the other name;
* `toList_renameText` : nothing but the name is replaced.
-/

namespace RouterTelemetry.Dns

open Text Time

/-! ## Names -/

/-- Whether a text can stand as a name in a line: it is not empty, and no character of it is a blank. -/
def IsName (n : String) : Prop :=
  n.toList ≠ [] ∧ ∀ c ∈ n.toList, isBlank c = false

instance (n : String) : Decidable (IsName n) :=
  decidable_of_iff (n.toList ≠ [] ∧ n.toList.all (!isBlank ·) = true) (by simp [IsName])

/-- Other names for names, and no name for two of them. -/
structure Renaming where
  toFun : String → String
  isName : ∀ n, IsName n → IsName (toFun n)
  injective : ∀ n m, IsName n → IsName m → toFun n = toFun m → n = m

instance : CoeFun Renaming fun _ => String → String :=
  ⟨Renaming.toFun⟩

/-- The name that a line is about. -/
def Activity.name : Activity → String
  | .query _ name _ => name
  | .reply name _ => name

/-- The same report about another name. -/
def Activity.withName (name : String) : Activity → Activity
  | .query client _ type => .query client name type
  | .reply _ missing => .reply name missing

/-- The name that a line is about. -/
def Line.name (l : Line) : String :=
  l.activity.name

/-- The line with another name in the place of its name. -/
def Line.rename (ρ : Renaming) (l : Line) : Line :=
  { l with activity := l.activity.withName (ρ l.name) }

namespace Line

/-! ## Readers -/

variable {α β : Type}

/-- A reader whose finding is settled by what it takes: in front of any other text, as long as that begins with
a character at which it stops, it takes and finds the same. -/
def Settled (read : List Char → Option (α × List Char)) (stop : Char → Bool) : Prop :=
  ∀ s x r, read s = some (x, r) →
    ∃ f, f ≠ [] ∧ s = f ++ r ∧ (∀ c ∈ r.head?, stop c = true) ∧
      ∀ r', (∀ c ∈ r'.head?, stop c = true) → read (f ++ r') = some (x, r')

theorem run?_eq_some_iff {p : Char → Bool} {s x r : List Char} :
    run? p s = some (x, r) ↔
      s = x ++ r ∧ x ≠ [] ∧ (∀ c ∈ x, p c = true) ∧ ∀ c ∈ r.head?, p c = false := by
  have hsplit := List.takeWhile_append_dropWhile (p := p) (l := s)
  constructor
  · intro h
    simp only [run?, List.isEmpty_iff, Option.ite_none_left_eq_some, Option.some.injEq,
      Prod.mk.injEq] at h
    obtain ⟨hne, rfl, rfl⟩ := h
    have hdrop : (s.takeWhile p ++ s.dropWhile p).drop (s.takeWhile p).length = s.dropWhile p :=
      List.drop_left
    rw [hsplit] at hdrop
    rw [hdrop]
    exact ⟨hsplit.symm, hne, fun _ => List.mem_takeWhile_imp, head?_dropWhile⟩
  · rintro ⟨rfl, hne, hall, hstop⟩
    have htake : (x ++ r).takeWhile p = x := by
      rw [List.takeWhile_append_of_pos hall, takeWhile_eq_nil hstop, List.append_nil]
    rw [run?, htake, List.drop_left]
    simp [hne]

theorem exactly?_eq_some_iff {n : Nat} {p : Char → Bool} {s x r : List Char} :
    exactly? n p s = some (x, r) ↔ s = x ++ r ∧ x.length = n ∧ ∀ c ∈ x, p c = true := by
  rw [exactly?]
  constructor
  · intro h
    split at h
    · next hx =>
      obtain ⟨rfl, rfl⟩ := Prod.mk.inj (Option.some.inj h)
      exact ⟨(List.take_append_drop n s).symm, hx.1, List.all_eq_true.mp hx.2⟩
    · exact absurd h (by simp)
  · rintro ⟨rfl, rfl, hall⟩
    rw [List.take_left, List.drop_left, if_pos ⟨rfl, List.all_eq_true.mpr hall⟩]

theorem after?_eq_some_iff {t s r : List Char} : after? t s = some r ↔ s = t ++ r := by
  induction t generalizing s with
  | nil => simp [after?]
  | cons c t ih =>
    cases s with
    | nil => simp [after?]
    | cons d s =>
      rw [after?]
      by_cases h : c = d
      · simp [h, ih]
      · simp [h, Ne.symm h]

theorem settled_run (p : Char → Bool) : Settled (run? p) fun c => !p c := by
  intro s x r h
  obtain ⟨rfl, hne, hall, hstop⟩ := run?_eq_some_iff.mp h
  refine ⟨x, hne, rfl, by simpa using hstop, fun r' hr' => ?_⟩
  exact run?_eq_some_iff.mpr ⟨rfl, hne, hall, by simpa using hr'⟩

theorem settled_exactly (n : Nat) (p : Char → Bool) :
    Settled (exactly? (n + 1) p) fun _ => true := by
  intro s x r h
  obtain ⟨rfl, hlen, hall⟩ := exactly?_eq_some_iff.mp h
  refine ⟨x, ?_, rfl, fun _ _ => rfl, fun r' _ => exactly?_eq_some_iff.mpr ⟨rfl, hlen, hall⟩⟩
  rintro rfl
  exact absurd hlen (by simp)

/-- **One reader after the other.** What the second one takes begins with a character at which the first one
stops, whatever follows. -/
theorem Settled.bind {read : List Char → Option (α × List Char)} {stop : Char → Bool}
    (h : Settled read stop) {next : α → List Char → Option (β × List Char)} {stop' : Char → Bool}
    (hnext : ∀ x, Settled (next x) stop') :
    Settled (fun s => (read s).bind fun p => next p.1 p.2) stop' := by
  intro s y r hs
  obtain ⟨⟨x, t⟩, hx, hy⟩ := Option.bind_eq_some_iff.mp hs
  obtain ⟨f, hf, rfl, hstop, hread⟩ := h s x t hx
  obtain ⟨g, hg, rfl, hstop', hread'⟩ := hnext x t y r hy
  refine ⟨f ++ g, by simp [hf], by rw [List.append_assoc], hstop', fun r' hr' => ?_⟩
  have hhead : (g ++ r').head? = (g ++ r).head? := by
    rw [List.head?_append_of_ne_nil _ hg, List.head?_append_of_ne_nil _ hg]
  dsimp only
  rw [List.append_assoc, hread (g ++ r') (hhead ▸ hstop), Option.bind_some]
  exact hread' r' hr'

theorem Settled.map {read : List Char → Option (α × List Char)} {stop : Char → Bool}
    (h : Settled read stop) (g : α → β) :
    Settled (fun s => (read s).bind fun p => some (g p.1, p.2)) stop := by
  intro s y r hs
  obtain ⟨⟨x, t⟩, hx, hy⟩ := Option.bind_eq_some_iff.mp hs
  obtain ⟨rfl, rfl⟩ := Prod.mk.inj (Option.some.inj hy)
  obtain ⟨f, hf, rfl, hstop, hread⟩ := h s x t hx
  refine ⟨f, hf, rfl, hstop, fun r' hr' => ?_⟩
  dsimp only
  rw [hread r' hr', Option.bind_some]

/-- A fixed text, and then a reader. -/
theorem Settled.after (t : List Char) {next : List Char → Option (α × List Char)} {stop : Char → Bool}
    (hnext : Settled next stop) : Settled (fun s => (after? t s).bind next) stop := by
  intro s y r hs
  obtain ⟨u, hu, hy⟩ := Option.bind_eq_some_iff.mp hs
  obtain rfl := after?_eq_some_iff.mp hu
  obtain ⟨g, hg, rfl, hstop, hread⟩ := hnext u y r hy
  refine ⟨t ++ g, by simp [hg], by rw [List.append_assoc], hstop, fun r' hr' => ?_⟩
  dsimp only
  rw [List.append_assoc, after?_eq_some_iff.mpr rfl, Option.bind_some]
  exact hread r' hr'

theorem settled_clock : Settled clock? fun _ => true :=
  (settled_exactly 1 isDigit).bind fun h => .after [':'] <|
    (settled_exactly 1 isDigit).bind fun m => .after [':'] <|
      (settled_exactly 1 isDigit).map fun sec => h ++ ':' :: (m ++ ':' :: sec)

theorem settled_stamp : Settled stamp? fun _ => true :=
  (settled_exactly 2 isWord).bind fun month => (settled_run isBlank).bind fun b =>
    (settled_run isDigit).bind fun day => (settled_run isBlank).bind fun b' =>
      settled_clock.map fun clock => month ++ b ++ day ++ b' ++ clock

theorem settled_heading : Settled heading? fun c => !isBlank c :=
  settled_stamp.bind fun stamp => (settled_run isBlank).bind fun _ =>
    (settled_run fun c => !isBlank c).bind fun _ => (settled_run isBlank).bind fun _ =>
      .after "dnsmasq[".toList <| (settled_run isDigit).bind fun _ =>
        .after "]:".toList <| (settled_run isBlank).map fun _ => stamp

/-! ## The place of the name -/

/-- What stands before the name of a query, behind the heading: the type in brackets. -/
def beforeQueried? (s : List Char) : Option Found := do
  let s ← after? "query[".toList s
  let (type, s) ← run? (· != ']') s
  let s ← after? [']'] s
  let (_, s) ← blanks? s
  some (type, s)

/-- What stands before the name of a reply, behind the heading. -/
def beforeReplied? (s : List Char) : Option Found := do
  let s ← after? "reply".toList s
  blanks? s

theorem query?_eq (s : List Char) :
    query? s = (beforeQueried? s).bind fun p => (wordsAround? "from".toList p.2).map fun w =>
      .query (String.ofList w.2) (String.ofList w.1) (String.ofList p.1) := by
  simp only [query?, beforeQueried?, Option.bind_eq_bind, Option.bind_assoc, Option.bind_some,
    Option.map_eq_bind, Function.comp_def]

theorem reply?_eq (s : List Char) :
    reply? s = (beforeReplied? s).bind fun p => (wordsAround? "is".toList p.2).map fun w =>
      .reply (String.ofList w.1) (saysMissing w.2) := by
  simp only [reply?, beforeReplied?, Option.bind_eq_bind, Option.bind_assoc,
    Option.map_eq_bind, Function.comp_def]

theorem settled_beforeQueried : Settled beforeQueried? fun c => !isBlank c :=
  .after "query[".toList <| (settled_run (· != ']')).bind fun type =>
    .after [']'] <| (settled_run isBlank).map fun _ => type

theorem settled_beforeReplied : Settled beforeReplied? fun c => !isBlank c :=
  .after "reply".toList (settled_run isBlank)

/-- A text around a name. -/
structure Spot where
  front : List Char
  name : List Char
  back : List Char

/-- The text with something else in the place of the name. -/
def Spot.fill (p : Spot) (name : List Char) : List Char :=
  p.front ++ (name ++ p.back)

/-- Where the name stands in a text that, without blanks around it, has the shape of a query or of a reply. -/
def spot? (s : List Char) : Option Spot := do
  let (_, t) ← heading? s
  let queried := (beforeQueried? t).bind fun p =>
    (wordsAround? "from".toList p.2).map fun _ => p.2
  let replied := (beforeReplied? t).bind fun p =>
    (wordsAround? "is".toList p.2).map fun _ => p.2
  let t ← queried.or replied
  some ⟨s.take (s.length - t.length), t.takeWhile fun c => !isBlank c,
    t.dropWhile fun c => !isBlank c⟩

/-- The line with another name in the place of its name. A text that is no query and no reply names nothing. -/
def renameText (ρ : Renaming) (text : String) : String :=
  let s := text.toList
  match spot? (trim s) with
  | some p =>
    String.ofList (s.takeWhile isBlank
      ++ (p.fill (ρ (String.ofList p.name)).toList ++ (trimStart s).rtakeWhile isBlank))
  | none => text

/-- The first of two words around a third is a name, and may be any other one. -/
theorem wordsAround?_append {between t first second : List Char}
    (h : wordsAround? between t = some (first, second)) :
    IsName (String.ofList (t.takeWhile fun c => !isBlank c)) ∧
      t.dropWhile (fun c => !isBlank c) ≠ [] ∧
      ∀ n, IsName n →
        wordsAround? between (n.toList ++ t.dropWhile fun c => !isBlank c)
          = some (n.toList, second) := by
  simp only [wordsAround?, Option.bind_eq_bind, Option.bind_eq_some_iff, Option.some.injEq,
    Prod.mk.injEq, Prod.exists] at h
  obtain ⟨_, back, hfirst, b, u, hb, v, hv, b', w, hb', _, _, hw, rfl, rfl⟩ := h
  obtain ⟨rfl, hne, hall, hstop⟩ := run?_eq_some_iff.mp hfirst
  rw [List.takeWhile_append_of_pos hall, takeWhile_eq_nil hstop, List.append_nil,
    List.dropWhile_append_of_pos hall, dropWhile_eq_self hstop]
  refine ⟨⟨by simpa using hne, by simpa using hall⟩, ?_, fun n hn => ?_⟩
  · -- the blanks before the second word are there
    obtain ⟨rfl, hne', -, -⟩ := run?_eq_some_iff.mp hb
    simp [hne']
  · have hsolid : solid? (n.toList ++ back) = some (n.toList, back) :=
      run?_eq_some_iff.mpr ⟨rfl, hn.1, by simpa using hn.2, hstop⟩
    simp [wordsAround?, hsolid, hb, hv, hb', hw]

/-- In a text that goes on behind its heading with something and then two words around a third, the first of
these words is the name, and any other name may stand in its place. -/
theorem fill_of_settled {before : List Char → Option Found}
    (hbefore : Settled before fun c => !isBlank c) {between s t u stamp x first second : List Char}
    (hs : heading? s = some (stamp, t)) (ht : before t = some (x, u))
    (hu : wordsAround? between u = some (first, second)) {p : Spot}
    (hp : p = ⟨s.take (s.length - u.length), u.takeWhile fun c => !isBlank c,
      u.dropWhile fun c => !isBlank c⟩) :
    s = p.fill p.name ∧ p.front ≠ [] ∧ p.back ≠ [] ∧ IsName (String.ofList p.name) ∧
      ∀ n, IsName n → ∃ t', heading? (p.fill n.toList) = some (stamp, t') ∧
        before t' = some (x, n.toList ++ p.back) ∧
        wordsAround? between (n.toList ++ p.back) = some (n.toList, second) := by
  -- the heading and what stands before the name are found by one settled reader
  have hboth := settled_heading.bind fun stamp => hbefore.map fun x => (stamp, x)
  obtain ⟨f, hf, rfl, -, hread⟩ := hboth s (stamp, x) u (by simp [hs, ht])
  obtain ⟨hname, hback, hwords⟩ := wordsAround?_append hu
  have hfront : (f ++ u).take ((f ++ u).length - u.length) = f := by
    rw [List.length_append, Nat.add_sub_cancel, List.take_left]
  rw [hfront] at hp
  subst hp
  refine ⟨?_, hf, hback, hname, fun n hn => ?_⟩
  · rw [Spot.fill, List.takeWhile_append_dropWhile]
  · have hstart : ∀ c ∈ (n.toList ++ u.dropWhile fun c => !isBlank c).head?, (!isBlank c) = true := by
      rw [List.head?_append_of_ne_nil _ hn.1]
      intro c hc
      simpa using hn.2 c (List.mem_of_head? hc)
    obtain ⟨⟨_, t'⟩, ht', hrest⟩ := Option.bind_eq_some_iff.mp (hread _ hstart)
    obtain ⟨⟨_, u'⟩, hu', hpair⟩ := Option.bind_eq_some_iff.mp hrest
    simp only [Option.some.injEq, Prod.mk.injEq] at hpair
    obtain ⟨⟨rfl, rfl⟩, rfl⟩ := hpair
    exact ⟨t', ht', hu', hwords n hn⟩

/-- What begins as a reply is no query. -/
theorem beforeQueried?_eq_none {t : List Char} {p : Found} (h : beforeReplied? t = some p) :
    beforeQueried? t = none := by
  obtain ⟨u, hu, -⟩ := Option.bind_eq_some_iff.mp h
  obtain rfl := after?_eq_some_iff.mp hu
  rfl

/-- **Any name may stand in the place of the name.** The rest of the line is read in the same way. -/
theorem shape?_of_spot? {s : List Char} {p : Spot} (h : spot? s = some p) :
    s = p.fill p.name ∧ p.front ≠ [] ∧ p.back ≠ [] ∧ IsName (String.ofList p.name) ∧
      ∃ stamp a, ∀ n, IsName n → shape? (p.fill n.toList) = some (stamp, Activity.withName n a) := by
  simp only [spot?, Option.bind_eq_bind, Option.bind_eq_some_iff, Option.some.injEq, Prod.exists,
    Option.or_eq_some_iff, Option.map_eq_some_iff] at h
  obtain ⟨stamp, t, hs, u, hu, hp⟩ := h
  rcases hu with ⟨type, u, ht, ⟨first, client, hwords, rfl⟩⟩ | ⟨-, b, u, ht, ⟨first, answer, hwords, rfl⟩⟩
  · obtain ⟨hfill, hfront, hback, hname, hread⟩ :=
      fill_of_settled settled_beforeQueried hs ht hwords hp.symm
    refine ⟨hfill, hfront, hback, hname, stamp,
      .query (String.ofList client) "" (String.ofList type), fun n hn => ?_⟩
    obtain ⟨t', hs', ht', hwords'⟩ := hread n hn
    have hquery : query? t' =
        some (.query (String.ofList client) n (String.ofList type)) := by
      rw [query?_eq, ht', Option.bind_some, hwords', Option.map_some, String.ofList_toList]
    simp [shape?, hs', hquery, Activity.withName]
  · obtain ⟨hfill, hfront, hback, hname, hread⟩ :=
      fill_of_settled settled_beforeReplied hs ht hwords hp.symm
    refine ⟨hfill, hfront, hback, hname, stamp, .reply "" (saysMissing answer), fun n hn => ?_⟩
    obtain ⟨t', hs', ht', hwords'⟩ := hread n hn
    have hreply : reply? t' = some (.reply n (saysMissing answer)) := by
      rw [reply?_eq, ht', Option.bind_some, hwords', Option.map_some, String.ofList_toList]
    -- what begins as a reply was not taken for a query before the name was reached
    simp [shape?, hs', query?_eq, beforeQueried?_eq_none ht', hreply, Activity.withName]

/-- A text with a shape has a name. -/
theorem spot?_of_shape? {s stamp : List Char} {a : Activity} (h : shape? s = some (stamp, a)) :
    ∃ p, spot? s = some p := by
  simp only [shape?, Option.bind_eq_bind, Option.bind_eq_some_iff, Option.some.injEq, Prod.exists,
    Prod.mk.injEq, Option.or_eq_some_iff] at h
  obtain ⟨stamp, t, hs, a, hread, -⟩ := h
  rcases hread with hquery | ⟨-, hreply⟩
  · rw [query?_eq] at hquery
    obtain ⟨⟨type, u⟩, ht, hu⟩ := Option.bind_eq_some_iff.mp hquery
    obtain ⟨w, hw, -⟩ := Option.map_eq_some_iff.mp hu
    simp only [spot?, hs, ht, hw, Option.bind_eq_bind, Option.bind_some, Option.map_some, Option.some_or,
      Option.some.injEq, exists_eq']
  · rw [reply?_eq] at hreply
    obtain ⟨⟨b, u⟩, ht, hu⟩ := Option.bind_eq_some_iff.mp hreply
    obtain ⟨w, hw, -⟩ := Option.map_eq_some_iff.mp hu
    simp only [spot?, hs, beforeQueried?_eq_none ht, ht, hw, Option.bind_eq_bind, Option.bind_some,
      Option.bind_none, Option.map_some, Option.none_or, Option.some.injEq, exists_eq']

/-- A text without blanks around it in which any name may stand is trimmed to it, whatever the name is. -/
theorem trim_fill {p : Spot} {s : List Char} (hs : trim s = p.fill p.name) (hfront : p.front ≠ [])
    (hback : p.back ≠ []) (n : List Char) :
    trim (s.takeWhile isBlank ++ (p.fill n ++ (trimStart s).rtakeWhile isBlank)) = p.fill n := by
  have hhead (n : List Char) : (p.fill n).head? = p.front.head? :=
    List.head?_append_of_ne_nil _ hfront
  have hlast (n : List Char) : (p.fill n).getLast? = p.back.getLast? := by
    rw [Spot.fill, ← List.append_assoc, List.getLast?_append_of_ne_nil _ hback]
  refine trim_between (fun c => List.mem_takeWhile_imp) (fun c => List.mem_rtakeWhile_imp) ?_ ?_ ?_
  · simp [Spot.fill, hfront]
  · rw [hhead, ← hhead p.name, ← hs]
    exact head?_trim s
  · rw [hlast, ← hlast p.name, ← hs]
    exact getLast?_trim s

/-- A text either names nothing and stays as it is, or has the shape of a line about a name, and then has the
same shape with the other name, which stands in the place of the name. -/
theorem shape?_cases (ρ : Renaming) (text : String) :
    (shape? (trim text.toList) = none ∧ renameText ρ text = text) ∨
      ∃ stamp a n, IsName n ∧ shape? (trim text.toList) = some (stamp, Activity.withName n a) ∧
        shape? (trim (renameText ρ text).toList) = some (stamp, a.withName (ρ n)) ∧
        ∃ front back, text.toList = front ++ (n.toList ++ back) ∧
          (renameText ρ text).toList = front ++ ((ρ n).toList ++ back) := by
  cases hp : spot? (trim text.toList) with
  | none =>
    refine Or.inl ⟨?_, by simp only [renameText, hp]⟩
    rw [Option.eq_none_iff_forall_ne_some]
    rintro ⟨stamp, a⟩ hshape
    obtain ⟨p, hp'⟩ := spot?_of_shape? hshape
    exact absurd (hp.symm.trans hp') (by simp)
  | some p =>
    obtain ⟨hs, hfront, hback, hname, stamp, a, hshape⟩ := shape?_of_spot? hp
    have hnew : (renameText ρ text).toList = text.toList.takeWhile isBlank
        ++ (p.fill (ρ (String.ofList p.name)).toList ++ (trimStart text.toList).rtakeWhile isBlank) := by
      simp only [renameText, hp, String.toList_ofList]
    refine Or.inr ⟨stamp, a, String.ofList p.name, hname, ?_, ?_, text.toList.takeWhile isBlank ++ p.front,
      p.back ++ (trimStart text.toList).rtakeWhile isBlank, ?_, ?_⟩
    · rw [hs]
      simpa using hshape _ hname
    · rw [hnew, trim_fill hs hfront hback]
      exact hshape _ (ρ.isName _ hname)
    · -- the blanks around the line stay where they are
      conv_lhs => rw [eq_append_trim text.toList, hs]
      simp [Spot.fill]
    · simp [hnew, Spot.fill]

/-- A text with a shape is read, if its stamp is a time. -/
theorem parse_of_shape? {text : String} {stamp : List Char} {a : Activity}
    (h : shape? (trim text.toList) = some (stamp, a)) (zone : Zone) (now : Instant) :
    parse zone text now = (instant zone stamp now).map fun t => ⟨t, a⟩ := by
  have hne : trim text.toList ≠ [] := by
    intro hnil
    rw [hnil] at h
    exact absurd h (by simp [shape?, heading?, stamp?, exactly?])
  rw [parse, if_neg (by simpa using hne), h]

/-- A text without a shape is not read. -/
theorem exists_parse_eq_error {text : String} (h : shape? (trim text.toList) = none) (zone : Zone)
    (now : Instant) : ∃ e, parse zone text now = .error e := by
  rw [parse, h]
  split
  · exact ⟨_, rfl⟩
  · exact ⟨_, rfl⟩

/-- A text that is read has a shape, and its stamp is a time. -/
theorem shape?_of_parse {zone : Zone} {text : String} {now : Instant} {l : Line}
    (h : parse zone text now = .ok l) :
    ∃ stamp, shape? (trim text.toList) = some (stamp, l.activity) ∧ instant zone stamp now = .ok l.time := by
  cases hshape : shape? (trim text.toList) with
  | none =>
    obtain ⟨e, he⟩ := exists_parse_eq_error hshape zone now
    exact absurd (he.symm.trans h) (by simp)
  | some p =>
    obtain ⟨stamp, a⟩ := p
    rw [parse_of_shape? hshape] at h
    cases ht : instant zone stamp now with
    | error e =>
      rw [ht] at h
      exact absurd h (by simp [Except.map])
    | ok t =>
      rw [ht] at h
      obtain rfl := Except.ok.inj h
      exact ⟨stamp, rfl, ht⟩

/-- **A line with another name is read as what it was, with the other name.** -/
theorem parse_renameText (ρ : Renaming) (zone : Zone) (text : String) (now : Instant) :
    parse zone (renameText ρ text) now = (parse zone text now).map (Line.rename ρ) := by
  rcases shape?_cases ρ text with ⟨hnone, hsame⟩ | ⟨stamp, a, n, -, hold, hnew, -⟩
  · obtain ⟨e, he⟩ := exists_parse_eq_error hnone zone now
    rw [hsame, he]
    rfl
  · rw [parse_of_shape? hold, parse_of_shape? hnew]
    cases instant zone stamp now with
    | error e => rfl
    | ok t => cases a <;> rfl

/-- **A line that is read is about a name.** It stays as it is, but for the name, when another one takes its place. -/
theorem toList_renameText {zone : Zone} {text : String} {now : Instant} {l : Line}
    (h : parse zone text now = .ok l) (ρ : Renaming) :
    IsName l.name ∧ ∃ front back, text.toList = front ++ (l.name.toList ++ back) ∧
      (renameText ρ text).toList = front ++ ((ρ l.name).toList ++ back) := by
  obtain ⟨stamp, hshape, -⟩ := shape?_of_parse h
  rcases shape?_cases ρ text with ⟨hnone, -⟩ | ⟨stamp', a, n, hn, hold, -, hplace⟩
  · exact absurd (hnone.symm.trans hshape) (by simp)
  · have hactivity : a.withName n = l.activity := (Prod.mk.inj (Option.some.inj (hold.symm.trans hshape))).2
    have hname : l.name = n := by
      rw [name, ← hactivity]
      cases a <;> rfl
    rw [hname]
    exact ⟨hn, hplace⟩

end Line

end RouterTelemetry.Dns
