import RouterTelemetry.Yaml.Node

/-!
# Aliases

How many aliases are followed in a node depends on the node alone, not on what was followed before it. So a document
stands for something if every alias in it does, and if there are no more of them to follow than its length allows. Main
statements:

* `Within.bind` : parts that are counted for themselves keep within a limit together;
* `within_expandWith` : a node is followed within a limit if the numbers are;
* `node?_eq` : what a document stands for.
-/

namespace RouterTelemetry.Yaml

/-! ## Counting -/

/-- What something stands for, with how many aliases are to be followed in it. -/
abbrev Expansion (α : Type) :=
  Option (α × Nat)

section Counting

variable {α β : Type} {limit : Nat}

/-- One expansion after another one. -/
def Expansion.andThen (e : Expansion α) (f : α → Expansion β) : Expansion β :=
  e.bind fun (a, k) => (f a).map fun (b, l) => (b, k + l)

/-- An expansion that keeps within a limit where `followed` aliases were followed before it. -/
def Expansion.upTo (limit followed : Nat) (e : Expansion α) : Expansion α :=
  e.bind fun (a, k) => if followed + k ≤ limit then some (a, followed + k) else none

/-- One alias more is to be followed. -/
def Expansion.next (e : Expansion α) : Expansion α :=
  e.map fun (a, k) => (a, k + 1)

/-- Nothing can be followed any more at the limit; else there is one alias less to follow. -/
theorem Expansion.upTo_next (e : Expansion α) (followed : Nat) :
    e.next.upTo limit followed = if limit ≤ followed then none else e.upTo limit (followed + 1) := by
  cases e with
  | none => exact (ite_self none).symm
  | some ak =>
    obtain ⟨a, k⟩ := ak
    show (if followed + (k + 1) ≤ limit then some (a, followed + (k + 1)) else none) =
      if limit ≤ followed then none
      else if followed + 1 + k ≤ limit then some (a, followed + 1 + k) else none
    rw [Nat.add_right_comm followed 1 k, Nat.add_assoc]
    by_cases hlimit : limit ≤ followed
    · rw [if_pos hlimit, if_neg (by omega)]
    · rw [if_neg hlimit]

/-- Following aliases one by one within a limit does what an expansion says. -/
def Within (limit : Nat) (x : Following α) (e : Expansion α) : Prop :=
  ∀ followed ≤ limit, x.run followed = e.upTo limit followed

theorem Within.pure (a : α) : Within limit (pure a) (some (a, 0)) := by
  intro followed h
  show some (a, followed) = _
  exact (if_pos h).symm

/-- **Parts keep within a limit together** if each of them does what its own expansion says. -/
theorem Within.bind {x : Following α} {e : Expansion α} (hx : Within limit x e) {f : α → Following β}
    {g : α → Expansion β} (hf : ∀ a, Within limit (f a) (g a)) : Within limit (x >>= f) (e.andThen g) := by
  intro followed h
  rw [StateT.run_bind, hx followed h]
  cases e with
  | none => rfl
  | some ak =>
    obtain ⟨a, k⟩ := ak
    show (if followed + k ≤ limit then some (a, followed + k) else none).bind _ =
      (((g a).map fun bl => (bl.1, k + bl.2)).bind _)
    by_cases hk : followed + k ≤ limit
    · rw [if_pos hk, Option.bind_some, hf a _ hk, Expansion.upTo, Option.bind_map]
      congr 1
      funext bl
      simp only [Function.comp_apply, Nat.add_assoc]
    · -- the first part goes beyond the limit, and so does the whole
      rw [if_neg hk, Option.bind_none]
      cases g a with
      | none => rfl
      | some bl => exact (if_neg (by omega)).symm

end Counting

/-! ## Expanding -/

namespace Tree

mutual

/-- What a node stands for, if `expand` says what numbers do. -/
def expandWith (expand : Nat → Expansion Node) : Tree → Expansion Node
  | .alias number => expand number
  | .scalar _ tag plain text => some (.scalar tag plain text, 0)
  | .sequence _ tag items => (expandItems expand items).andThen fun ns => some (.sequence tag ns, 0)
  | .mapping _ tag pairs => (expandPairs expand pairs).andThen fun ps => some (.mapping tag ps, 0)

/-- What items stand for. -/
def expandItems (expand : Nat → Expansion Node) : List Tree → Expansion (List Node)
  | [] => some ([], 0)
  | t :: rest =>
    (t.expandWith expand).andThen fun n => (expandItems expand rest).andThen fun ns => some (n :: ns, 0)

/-- What pairs stand for. -/
def expandPairs (expand : Nat → Expansion Node) : List (Tree × Tree) → Expansion (List (Node × Node))
  | [] => some ([], 0)
  | (k, v) :: rest =>
    (k.expandWith expand).andThen fun a => (v.expandWith expand).andThen fun b =>
      (expandPairs expand rest).andThen fun ps => some ((a, b) :: ps, 0)

end

/-- What a number stands for among numbered nodes, the latest first, with no more than `room` aliases inside each
other. The alias itself is one to follow. -/
def expand (latest : List (Nat × Tree)) : (room : Nat) → Nat → Expansion Node
  | 0, _ => none
  | room + 1, number =>
    (Table.find? number latest).bind fun t => (t.expandWith (expand latest room)).next

/-- What a document stands for, however many aliases there are to follow. -/
def expansion (t : Tree) : Expansion Node :=
  t.expandWith (expand t.numbered.reverse deepest)

section Limit

variable {limit : Nat} {x : Nat → Following Node} {e : Nat → Expansion Node}

mutual

/-- **A node is followed within a limit** if the numbers are. -/
theorem within_expandWith (h : ∀ number, Within limit (x number) (e number)) (t : Tree) :
    Within limit (t.nodeWith x) (t.expandWith e) := by
  match t with
  | .alias number => exact h number
  | .scalar _ tag plain text => exact .pure (Node.scalar tag plain text)
  | .sequence _ tag items =>
    rw [nodeWith, expandWith]
    exact (within_expandItems h items).bind fun ns => .pure (Node.sequence tag ns)
  | .mapping _ tag pairs =>
    rw [nodeWith, expandWith]
    exact (within_expandPairs h pairs).bind fun ps => .pure (Node.mapping tag ps)

theorem within_expandItems (h : ∀ number, Within limit (x number) (e number)) (items : List Tree) :
    Within limit (itemsWith x items) (expandItems e items) := by
  cases items with
  | nil => exact .pure []
  | cons t rest =>
    rw [itemsWith, expandItems]
    exact (within_expandWith h t).bind fun n => (within_expandItems h rest).bind fun ns => .pure (n :: ns)

theorem within_expandPairs (h : ∀ number, Within limit (x number) (e number)) (pairs : List (Tree × Tree)) :
    Within limit (pairsWith x pairs) (expandPairs e pairs) := by
  rcases pairs with _ | ⟨⟨k, v⟩, rest⟩
  · exact .pure []
  · rw [pairsWith, expandPairs]
    exact (within_expandWith h k).bind fun a => (within_expandWith h v).bind fun b =>
      (within_expandPairs h rest).bind fun ps => .pure ((a, b) :: ps)

end

/-- One alias is followed. -/
theorem run_follow (latest : List (Nat × Tree)) (room number followed : Nat) :
    (follow latest limit (room + 1) number).run followed =
      if limit ≤ followed then none
      else (Table.find? number latest).bind fun t => (t.nodeWith (follow latest limit room)).run (followed + 1) := by
  unfold follow
  rw [StateT.run_bind, StateT.run_get]
  show StateT.run (if limit ≤ followed then _ else _) followed = _
  split
  · rfl
  · cases Table.find? number latest <;> rfl

/-- A number is, with as much room. -/
theorem within_expand (latest : List (Nat × Tree)) (room number : Nat) :
    Within limit (follow latest limit room number) (expand latest room number) := by
  induction room generalizing number with
  | zero => exact fun _ _ => rfl
  | succ room ih =>
    intro followed h
    rw [run_follow, expand]
    cases Table.find? number latest with
    | none => exact ite_self none
    | some t =>
      rw [Option.bind_some, Option.bind_some, Expansion.upTo_next]
      split
      · rfl
      · exact within_expandWith ih t (followed + 1) (by omega)

end Limit

/-- **What a document stands for**: what it is expanded to, if there are no more aliases to follow than its length
allows. -/
theorem node?_eq (t : Tree) :
    t.node? = t.expansion.bind fun (n, k) => if k ≤ t.limit then some n else none := by
  unfold node? expansion
  rw [StateT.run'_eq, within_expandWith (within_expand _ _) t 0 (Nat.zero_le _)]
  unfold Expansion.upTo
  rw [Option.map_eq_map, Option.map_bind]
  congr 1
  funext nk
  simp only [Function.comp_apply, Nat.zero_add]
  split <;> rfl

end Tree

/-- What the document of a text stands for. -/
theorem Node.ofText?_eq (text : List Char) :
    Node.ofText? text = (Tree.ofText? text).bind fun
      | some t => (t.expansion.bind fun (n, k) => if k ≤ t.limit then some n else none).map some
      | none => some none := by
  unfold Node.ofText?
  simp only [Tree.node?_eq]
  cases Tree.ofText? text with
  | none => rfl
  | some document => cases document <;> rfl

end RouterTelemetry.Yaml
