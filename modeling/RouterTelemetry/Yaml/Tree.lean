import RouterTelemetry.Table
import RouterTelemetry.Yaml.Token

/-!
# Trees

The tree that the tokens of a YAML document describe, with every tag in full. An alias stands in it as it is written;
what it refers to is a matter of the whole document.
-/

namespace RouterTelemetry.Yaml

/-- A node as it is written, with the number that its anchor was given, if it has one, and with its tag. A scalar is
plain or quoted. An alias refers to a number. -/
inductive Tree where
  | alias (number : Nat)
  | scalar (number : Option Nat) (tag : Option String) (plain : Bool) (text : String)
  | sequence (number : Option Nat) (tag : Option String) (items : List Tree)
  | mapping (number : Option Nat) (tag : Option String) (pairs : List (Tree × Tree))
deriving Repr

namespace Tree

/-- The node that stands where nothing is written. -/
def empty : Tree :=
  .scalar none none true ""

/-! ## Events and numbers -/

mutual

/-- The number of events that a parser makes of a node: one for a scalar or an alias, and one at either end of a
collection. -/
def events : Tree → Nat
  | .alias _ => 1
  | .scalar .. => 1
  | .sequence _ _ items => eventsOfItems items + 2
  | .mapping _ _ pairs => eventsOfPairs pairs + 2

/-- The number of events that a parser makes of items. -/
def eventsOfItems : List Tree → Nat
  | [] => 0
  | t :: rest => t.events + eventsOfItems rest

/-- The number of events that a parser makes of pairs. -/
def eventsOfPairs : List (Tree × Tree) → Nat
  | [] => 0
  | (k, v) :: rest => k.events + v.events + eventsOfPairs rest

end

mutual

/-- The nodes with a number, in the order in which they start. -/
def numbered : Tree → List (Nat × Tree)
  | .alias _ => []
  | .scalar number tag plain text => number.toList.map (·, .scalar number tag plain text)
  | .sequence number tag items => number.toList.map (·, .sequence number tag items) ++ numberedOfItems items
  | .mapping number tag pairs => number.toList.map (·, .mapping number tag pairs) ++ numberedOfPairs pairs

/-- The items, and the nodes in them, with a number. -/
def numberedOfItems : List Tree → List (Nat × Tree)
  | [] => []
  | t :: rest => t.numbered ++ numberedOfItems rest

/-- The keys and values, and the nodes in them, with a number. -/
def numberedOfPairs : List (Tree × Tree) → List (Nat × Tree)
  | [] => []
  | (k, v) :: rest => k.numbered ++ v.numbered ++ numberedOfPairs rest

end

/-! ## Reading -/

/-- The tokens to come, the expansions of tag handles, and the names that anchors have given so far, each with the
number that it was given last. -/
structure Source where
  tokens : List Token
  handles : List (String × String)
  names : List (String × Nat) := []

/-- Reading a part of a document. -/
abbrev Read := StateT Source Option

/-- The next token. -/
def peek : Read (Option Token) := do
  return (← get).tokens.head?

/-- Passes the next token. -/
def advance : Read Unit :=
  modify fun s => { s with tokens := s.tokens.drop 1 }

/-- Passes the next token if it is `t`. -/
def accept (t : Token) : Read Bool := do
  if (← peek) == some t then
    advance
    return true
  else return false

/-- Whether the next token is one of `ts`. -/
def nextIn (ts : List Token) : Read Bool := do
  match ← peek with
  | some t => return ts.contains t
  | none => return false

/-- The anchor at the front. -/
def anchor? : Read (Option String) := do
  match ← peek with
  | some (.anchor n) => advance; return some n
  | _ => return none

/-- The tag at the front, in full. -/
def tag? : Read (Option String) := do
  match ← peek with
  | some (.tag handle suffix) =>
    advance
    if handle.isEmpty then return some suffix
    else
      match (← get).handles.lookup handle with
      | some expansion => return some (expansion ++ suffix)
      | none => failure
  | _ => return none

/-- The properties of a node: an anchor and a tag, in either order. -/
def properties : Read (Option String × Option String) := do
  match ← anchor? with
  | some a => return (some a, ← tag?)
  | none =>
    let t ← tag?
    return (← anchor?, t)

/-- Gives a name to a node that starts. It is numbered by how many names there are before it; so a name that is given
anew has a new number, but the name after it may have the same one. -/
def declare (anchor : Option String) : Read (Option Nat) := do
  match anchor with
  | some a =>
    let names := (← get).names
    modify fun s => { s with names := Table.put a names.length names }
    return some names.length
  | none => return none

mutual

/-- The node at the front. Only in a block can it be a block collection, and only in a mapping a sequence
that is indented no deeper than its key. -/
def read (block flush : Bool) : Nat → Read Tree
  | 0 => failure
  | fuel + 1 => do
    match ← peek with
    | some (.alias a) =>
      advance
      match Table.find? a (← get).names with
      | some number => return .alias number
      | none => failure
    | _ =>
      let (anchor, tag) ← properties
      content block flush (← declare anchor) tag fuel

/-- The content of a node behind its properties. -/
def content (block flush : Bool) (number : Option Nat) (tag : Option String) : Nat → Read Tree
  | 0 => failure
  | fuel + 1 => do
    match ← peek with
    | some .blockEntry =>
      if flush then return .sequence number tag (← flushItems fuel)
      else if number.isSome || tag.isSome then return .scalar number tag true ""
      else failure
    | some (.scalar plain text) =>
      advance
      return .scalar number (if tag = some "!" then none else tag) plain text
    | some .flowSequenceStart => advance; return .sequence number tag (← flowItems true fuel)
    | some .flowMappingStart => advance; return .mapping number tag (← flowPairs true fuel)
    | some .blockSequenceStart =>
      if block then
        advance
        return .sequence number tag (← blockItems fuel)
      else if number.isSome || tag.isSome then return .scalar number tag true ""
      else failure
    | some .blockMappingStart =>
      if block then
        advance
        return .mapping number tag (← blockPairs fuel)
      else if number.isSome || tag.isSome then return .scalar number tag true ""
      else failure
    | _ => if number.isSome || tag.isSome then return .scalar number tag true "" else failure

/-- The entries of a block sequence, up to its end. -/
def blockItems : Nat → Read (List Tree)
  | 0 => failure
  | fuel + 1 => do
    if ← accept .blockEntry then
      let n ← if ← nextIn [.blockEntry, .blockEnd] then pure empty else read true false fuel
      return n :: (← blockItems fuel)
    else if ← accept .blockEnd then return []
    else failure

/-- The entries of a block sequence that no token closes. -/
def flushItems : Nat → Read (List Tree)
  | 0 => failure
  | fuel + 1 => do
    if ← accept .blockEntry then
      let n ← if ← nextIn [.blockEntry, .key, .value, .blockEnd] then pure empty
        else read true false fuel
      return n :: (← flushItems fuel)
    else return []

/-- The pairs of a block mapping, up to its end. -/
def blockPairs : Nat → Read (List (Tree × Tree))
  | 0 => failure
  | fuel + 1 => do
    let side : Read Tree := do
      if ← nextIn [.key, .value, .blockEnd] then return empty else read true true fuel
    if ← accept .key then
      let k ← side
      let v ← if ← accept .value then side else pure empty
      return (k, v) :: (← blockPairs fuel)
    else if ← accept .blockEnd then return []
    else failure

/-- The entries of a flow sequence, up to its end. A pair among them is a mapping of its own. -/
def flowItems (first : Bool) : Nat → Read (List Tree)
  | 0 => failure
  | fuel + 1 => do
    if ← accept .flowSequenceEnd then return []
    else if !first && !(← accept .flowEntry) then failure
    else if ← accept .key then
      let k ← if ← nextIn [.value, .flowEntry, .flowSequenceEnd] then pure empty
        else read false false fuel
      let v ← if ← accept .value then
          if ← nextIn [.flowEntry, .flowSequenceEnd] then pure empty else read false false fuel
        else pure empty
      return .mapping none none [(k, v)] :: (← flowItems false fuel)
    else if ← accept .flowSequenceEnd then return []
    else
      let n ← read false false fuel
      return n :: (← flowItems false fuel)

/-- The pairs of a flow mapping, up to its end. -/
def flowPairs (first : Bool) : Nat → Read (List (Tree × Tree))
  | 0 => failure
  | fuel + 1 => do
    if ← accept .flowMappingEnd then return []
    else if !first && !(← accept .flowEntry) then failure
    else if ← accept .key then
      let k ← if ← nextIn [.value, .flowEntry, .flowMappingEnd] then pure empty
        else read false false fuel
      let v ← if ← accept .value then
          if ← nextIn [.flowEntry, .flowMappingEnd] then pure empty else read false false fuel
        else pure empty
      return (k, v) :: (← flowPairs false fuel)
    else if ← accept .flowMappingEnd then return []
    else
      let k ← read false false fuel
      return (k, empty) :: (← flowPairs false fuel)

end

/-! ## Documents -/

/-- The handles that need no directive. -/
def standardHandles : List (String × String) :=
  [("!", "!"), ("!!", "tag:yaml.org,2002:")]

/-- The directives at the front: at most one version, and one expansion for each handle. -/
def directives : List (String × String) → Bool → List Token → Option (List (String × String) × List Token)
  | handles, versioned, .version major minor :: rest =>
    if versioned || major != 1 || (minor != 1 && minor != 2) then none
    else directives handles true rest
  | handles, versioned, .shorthand h e :: rest =>
    if (handles.lookup h).isSome then none else directives ((h, e) :: handles) versioned rest
  | handles, _, rest => some (handles, rest)

/-- Whether nothing but ends of documents follows. -/
def isOver (tokens : List Token) : Bool :=
  tokens.all (· == .documentEnd)

/-- The document that tokens describe: `some none` if there is none at all, and `none` if they describe no
single document. -/
def document? (tokens : List Token) : Option (Option Tree) := do
  -- Reading a node makes two calls for a token at most, and two more.
  let fuel := 2 * tokens.length + 4
  let finish (handles : List (String × String)) (tokens : List Token) : Option (Option Tree) := do
    let (n, s) ← (read true false fuel).run ⟨tokens, handles ++ standardHandles, []⟩
    if isOver s.tokens then some (some n) else none
  match tokens with
  | [] => some none
  | .version _ _ :: _ | .shorthand _ _ :: _ | .documentStart :: _ =>
    let (handles, rest) ← directives [] false tokens
    match rest with
    | .documentStart :: rest =>
      if isOver rest then some (some empty)
      else finish handles rest
    | _ => none
  | _ => finish [] tokens

/-- The document of a text. -/
def ofText? (text : List Char) : Option (Option Tree) :=
  (tokens? text).bind document?

end Tree

end RouterTelemetry.Yaml
