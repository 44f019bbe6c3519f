import RouterTelemetry.Config.Value
import RouterTelemetry.Numeric.Decimal
import RouterTelemetry.Yaml.Node

/-!
# Settings in a document

The settings that a YAML document holds. Plain scalars are read as null, truth values, integers and numbers
where they have the form of one, and as texts otherwise; a standard tag fixes the reading.
-/

namespace RouterTelemetry.Config

open Numeric (Binary64 Decimal ofDigits?)
open Yaml (Node deepest)

/-! ## Scalars -/

def isNull (s : List Char) : Bool :=
  ["null", "Null", "NULL", "~"].contains (String.ofList s)

def truth? (s : List Char) : Option Bool :=
  if ["true", "True", "TRUE"].contains (String.ofList s) then some true
  else if ["false", "False", "FALSE"].contains (String.ofList s) then some false
  else none

/-- Whether a text consists of several digits that start with a zero, which is no number. -/
def isZeroPadded (s : List Char) : Bool :=
  match (Numeric.splitSign s).2 with
  | '0' :: d :: rest => (d :: rest).all Char.isDigit
  | _ => false

/-- The number that digits with their base in front denote. -/
def basedDigits? : List Char → Option Nat
  | '0' :: 'x' :: rest => ofDigits? 16 rest
  | '0' :: 'o' :: rest => ofDigits? 8 rest
  | '0' :: 'b' :: rest => ofDigits? 2 rest
  | rest => if isZeroPadded rest then none else ofDigits? 10 rest

/-- The integer that a text denotes, of at most a hundred and twenty-eight bits. -/
def integer? (s : List Char) : Option Int := do
  let (negative, digits) := Numeric.splitSign s
  let n ← basedDigits? digits
  if negative then if n ≤ Nat.pow 2 127 then some (-(n : Int)) else none
  else if n < Nat.pow 2 128 then some n else none

/-- The number that a text denotes: finite, or one of the words for those that are not. -/
def real? (s : List Char) : Option Value :=
  let t := String.ofList s
  if [".inf", ".Inf", ".INF", "+.inf", "+.Inf", "+.INF", "-.inf", "-.Inf", "-.INF",
      ".nan", ".NaN", ".NAN"].contains t then some .unbounded
  else do
    let d ← Decimal.ofText? s
    let x ← Binary64.ofDecimal? d.negative d.digits d.exponent
    some (.real x)

/-- What a plain scalar stands for. -/
def plainValue (s : String) : Value :=
  let cs := s.toList
  if cs.isEmpty || isNull cs then .null
  else match truth? cs with
    | some b => .bool b
    | none => match integer? cs with
      | some n => .integer n
      | none => match if isZeroPadded cs then none else real? cs with
        | some v => v
        | none => .text s

/-- A standard tag. -/
def standardTag (kind : String) : String :=
  "tag:yaml.org,2002:" ++ kind

/-- What a scalar stands for, if its tag allows it. A tag of the document's own has no meaning. -/
def scalarValue? (tag : Option String) (plain : Bool) (s : String) : Option Value :=
  match tag with
  | none => some (if plain then plainValue s else .text s)
  | some t =>
    if t.startsWith "!" then none
    else if t = standardTag "bool" then (truth? s.toList).map .bool
    else if t = standardTag "int" then (integer? s.toList).map .integer
    else if t = standardTag "float" then real? s.toList
    else if t = standardTag "null" then if isNull s.toList then some .null else none
    else some (.text s)

/-- Whether a collection's tag allows it to be read. -/
def isReadableTag (tag : Option String) : Bool :=
  match tag with
  | some t => !t.startsWith "!"
  | none => true

/-! ## Nodes -/

/-- The key that a node stands for. -/
def key? : Node → Option String
  | .scalar _ _ s => some s
  | _ => none

mutual

/-- What a node stands for, with `room` collections allowed inside each other. -/
def nodeValue? (room : Nat) : Node → Option Value
  | .scalar tag plain s => scalarValue? tag plain s
  | .sequence tag items =>
    if !isReadableTag tag || room = 0 then none else (itemValues? (room - 1) items).map .list
  | .mapping tag pairs =>
    if !isReadableTag tag || room = 0 then none
    else (pairValues? (room - 1) pairs).map fun es => .table (Value.ofEntries es)

/-- The values of a sequence. -/
def itemValues? (room : Nat) : List Node → Option (List Value)
  | [] => some []
  | n :: rest => do some ((← nodeValue? room n) :: (← itemValues? room rest))

/-- The entries of a mapping. -/
def pairValues? (room : Nat) : List (Node × Node) → Option (List (String × Value))
  | [] => some []
  | (k, v) :: rest => do
    some ((← key? k, ← nodeValue? room v) :: (← pairValues? room rest))

end

/-- The settings that a document holds: none if it is empty. -/
def documentEntries? (text : List Char) : Option (List (String × Value)) := do
  match ← Node.ofText? text with
  | none => some []
  | some (.scalar _ plain s) => if plain && s.isEmpty then some [] else none
  | some (.sequence _ _) => none
  | some (.mapping _ pairs) => (pairValues? (deepest - 1) pairs).map Value.ofEntries

end RouterTelemetry.Config
