import RouterTelemetry.Json.Basic
import RouterTelemetry.Table

/-!
# Values of settings

What a source of settings says: a tree of tables, lists and scalars. Tables of several sources are merged
key by key; everything else is replaced by the later source.
-/

namespace RouterTelemetry.Config

open Numeric (Binary64)

/-- The value of a setting. -/
inductive Value where
  | null
  | bool (b : Bool)
  | integer (n : Int)
  | real (x : Binary64)
  /-- An infinity, or no number at all. -/
  | unbounded
  | text (s : String)
  | list (items : List Value)
  | table (entries : List (String × Value))
deriving Repr

namespace Value

/-- The table of the given entries, in which later ones replace earlier ones. -/
def ofEntries (entries : List (String × Value)) : List (String × Value) :=
  entries.foldl (fun t (k, v) => Table.put k v t) []

mutual

/-- `v` as the source `w` changes it. -/
def merge (v : Value) (w : Value) : Value :=
  match v, w with
  | .table a, .table b => .table (mergeEntries a b)
  | _, w => w
termination_by sizeOf w

/-- The entries of a table as those of a later one change them. -/
def mergeEntries (a : List (String × Value)) (b : List (String × Value)) : List (String × Value) :=
  match b with
  | [] => a
  | (k, w) :: rest =>
    let v := match Table.find? k a with
      | some v => merge v w
      | none => w
    mergeEntries (Table.put k v a) rest
termination_by sizeOf b

end

mutual

/-- The value as JSON, if it is one: an integer of more than sixty-four bits is not. -/
def toJson? : Value → Option Json
  | .null => some .null
  | .bool b => some (.bool b)
  | .integer n =>
    if -(Nat.pow 2 63 : Int) ≤ n ∧ n < (Nat.pow 2 64 : Int) then some (.int n) else none
  | .real x => some (.number (.real x))
  | .unbounded => some .null
  | .text s => some (.string s)
  | .list items => (itemsToJson? items).map .array
  | .table entries => (entriesToJson? entries).map .object

/-- The items of a list as JSON. -/
def itemsToJson? : List Value → Option (List Json)
  | [] => some []
  | v :: rest => do some ((← toJson? v) :: (← itemsToJson? rest))

/-- The entries of a table as JSON. -/
def entriesToJson? : List (String × Value) → Option (List (String × Json))
  | [] => some []
  | (k, v) :: rest => do some ((k, ← toJson? v) :: (← entriesToJson? rest))

end

end Value

end RouterTelemetry.Config
