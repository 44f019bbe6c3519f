import RouterTelemetry.Yaml.Tree

/-!
# Nodes

What the tree of a YAML document stands for: every alias is replaced by the node that it refers to. Since a node may be
replaced again and again in this way, it is done only so often as the length of the document allows.
-/

namespace RouterTelemetry.Yaml

/-- How deep collections may lie in each other. -/
def deepest : Nat := 128

/-- A node with its tag, if one is written. A scalar is plain or quoted. -/
inductive Node where
  | scalar (tag : Option String) (plain : Bool) (text : String)
  | sequence (tag : Option String) (items : List Node)
  | mapping (tag : Option String) (pairs : List (Node × Node))
deriving Repr

namespace Node

mutual

/-- Nodes can be compared. -/
def decEq : (a b : Node) → Decidable (a = b)
  | .scalar t p s, .scalar t' p' s' => decidable_of_iff (t = t' ∧ p = p' ∧ s = s') (by simp)
  | .sequence t ns, .sequence t' ns' =>
    have := decEqItems ns ns'
    decidable_of_iff (t = t' ∧ ns = ns') (by simp)
  | .mapping t ps, .mapping t' ps' =>
    have := decEqPairs ps ps'
    decidable_of_iff (t = t' ∧ ps = ps') (by simp)
  | .scalar .., .sequence .. => .isFalse (by simp)
  | .scalar .., .mapping .. => .isFalse (by simp)
  | .sequence .., .scalar .. => .isFalse (by simp)
  | .sequence .., .mapping .. => .isFalse (by simp)
  | .mapping .., .scalar .. => .isFalse (by simp)
  | .mapping .., .sequence .. => .isFalse (by simp)

/-- Items of sequences can be compared. -/
def decEqItems : (as bs : List Node) → Decidable (as = bs)
  | [], [] => .isTrue rfl
  | a :: as, b :: bs =>
    have := decEq a b
    have := decEqItems as bs
    decidable_of_iff (a = b ∧ as = bs) (by simp)
  | [], _ :: _ => .isFalse (by simp)
  | _ :: _, [] => .isFalse (by simp)

/-- Pairs of mappings can be compared. -/
def decEqPairs : (as bs : List (Node × Node)) → Decidable (as = bs)
  | [], [] => .isTrue rfl
  | (k, v) :: as, (k', v') :: bs =>
    have := decEq k k'
    have := decEq v v'
    have := decEqPairs as bs
    decidable_of_iff ((k = k' ∧ v = v') ∧ as = bs) (by simp)
  | [], _ :: _ => .isFalse (by simp)
  | _ :: _, [] => .isFalse (by simp)

end

instance : DecidableEq Node := decEq

end Node

/-! ## Aliases -/

/-- Replacing aliases, with how many were followed so far. -/
abbrev Following := StateT Nat Option

namespace Tree

mutual

/-- What a node stands for, if `follow` says what numbers do. -/
def nodeWith (follow : Nat → Following Node) : Tree → Following Node
  | .alias number => follow number
  | .scalar _ tag plain text => return .scalar tag plain text
  | .sequence _ tag items => return .sequence tag (← itemsWith follow items)
  | .mapping _ tag pairs => return .mapping tag (← pairsWith follow pairs)

/-- What items stand for. -/
def itemsWith (follow : Nat → Following Node) : List Tree → Following (List Node)
  | [] => return []
  | t :: rest => return (← t.nodeWith follow) :: (← itemsWith follow rest)

/-- What pairs stand for. -/
def pairsWith (follow : Nat → Following Node) : List (Tree × Tree) → Following (List (Node × Node))
  | [] => return []
  | (k, v) :: rest => return (← k.nodeWith follow, ← v.nodeWith follow) :: (← pairsWith follow rest)

end

/-- What a number stands for among numbered nodes, the latest first. No more than `limit` aliases are followed on the
whole, and no more than `room` inside each other. -/
def follow (latest : List (Nat × Tree)) (limit : Nat) : (room : Nat) → Nat → Following Node
  | 0, _ => failure
  | room + 1, number => do
    let followed ← get
    if limit ≤ followed then failure
    set (followed + 1)
    match Table.find? number latest with
    | some t => t.nodeWith (follow latest limit room)
    | none => failure

/-- How many aliases are followed in a document: a hundred for each of its events. -/
def limit (t : Tree) : Nat :=
  100 * t.events

/-- What a document stands for, if it keeps within its limit. An alias refers to the node that was last given its
number, in the document as a whole; so a node may refer to itself, but then there is no end. -/
def node? (t : Tree) : Option Node :=
  -- What an alias refers to inside another one lies deeper; beyond `deepest` nothing is read anyway.
  (t.nodeWith (follow t.numbered.reverse t.limit deepest)).run' 0

end Tree

/-- What the document of a text stands for: `some none` if there is none at all. -/
def Node.ofText? (text : List Char) : Option (Option Node) := do
  match ← Tree.ofText? text with
  | some t => t.node?.map some
  | none => some none

end RouterTelemetry.Yaml
