import RouterTelemetry.Numeric.Binary64
import RouterTelemetry.Text.Quoted
/-!
# JSON values

A JSON value with its object members in order. Numbers are kept as what they are read as: a whole number
of at most sixty-four bits, or a double.
-/

namespace RouterTelemetry

open Numeric (Binary64)

/-- A JSON number. -/
inductive Json.Number where
  | natural (n : Nat)
  /-- The number `-n`, where `n` is not zero. -/
  | negative (n : Nat)
  | real (x : Binary64)
deriving DecidableEq, Repr

/-- A JSON value. `unreadable` stands for a piece of text that has the form of a value and denotes
none: a number beyond the doubles, or a string with half a surrogate pair. -/
inductive Json where
  | null
  | bool (b : Bool)
  | number (n : Json.Number)
  | string (s : String)
  | array (items : List Json)
  | object (members : List (String × Json))
  | unreadable
deriving Repr

namespace Json

/-- The number `n`. -/
def nat (n : Nat) : Json :=
  .number (.natural n)

/-- The number `i`. -/
def int (i : Int) : Json :=
  if i < 0 then .number (.negative i.natAbs) else .number (.natural i.natAbs)

/-- The value of the last member called `key` of an object. -/
def get? (v : Json) (key : String) : Option Json :=
  match v with
  | .object ms => (ms.reverse.find? (·.1 == key)).map (·.2)
  | _ => none

mutual

/-- The number of values around the innermost ones, counting arrays and objects. -/
def depth : Json → Nat
  | .array items => 1 + depthOfItems items
  | .object members => 1 + depthOfMembers members
  | _ => 0

/-- The greatest depth in a list of values. -/
def depthOfItems : List Json → Nat
  | [] => 0
  | v :: rest => max (depth v) (depthOfItems rest)

/-- The greatest depth in a list of members. -/
def depthOfMembers : List (String × Json) → Nat
  | [] => 0
  | (_, v) :: rest => max (depth v) (depthOfMembers rest)

end

mutual

/-- Whether nothing in the value is `unreadable`. -/
def isReadable : Json → Bool
  | .unreadable => false
  | .array items => itemsReadable items
  | .object members => membersReadable members
  | _ => true

/-- Whether all values of a list are readable. -/
def itemsReadable : List Json → Bool
  | [] => true
  | v :: rest => isReadable v && itemsReadable rest

/-- Whether the values of all members are readable. -/
def membersReadable : List (String × Json) → Bool
  | [] => true
  | (_, v) :: rest => isReadable v && membersReadable rest

end

/-! ## The compact text -/

/-- How one character stands inside a JSON string: quotes, backslashes and controls are escaped, all else
is written as it is. -/
def escapeChar (c : Char) : List Char :=
  if c = '"' then ['\\', '"']
  else if c = '\\' then ['\\', '\\']
  else if c = '\n' then ['\\', 'n']
  else if c = '\r' then ['\\', 'r']
  else if c = '\t' then ['\\', 't']
  else if c = Char.ofNat 8 then ['\\', 'b']
  else if c = Char.ofNat 12 then ['\\', 'f']
  else if c.toNat < 0x20 then
    ['\\', 'u', '0', '0', (if c.toNat < 16 then '0' else '1'), Nat.digitChar (c.toNat % 16)]
  else [c]

/-- A JSON string. -/
def renderString (s : String) : List Char :=
  '"' :: (s.toList.flatMap escapeChar ++ ['"'])

/-- A JSON number. -/
def renderNumber : Number → List Char
  | .natural n => Nat.toDigits 10 n
  | .negative n => '-' :: Nat.toDigits 10 n
  | .real x => x.text

mutual

/-- The compact text of a value. -/
def render : Json → List Char
  | .null => "null".toList
  | .bool b => (if b then "true" else "false").toList
  | .number n => renderNumber n
  | .string s => renderString s
  | .array items => '[' :: (renderItems items ++ [']'])
  | .object members => '\x7b' :: (renderMembers members ++ ['\x7d'])
  | .unreadable => "null".toList

/-- The items of an array, with commas between them. -/
def renderItems : List Json → List Char
  | [] => []
  | [v] => render v
  | v :: rest => render v ++ ',' :: renderItems rest

/-- The members of an object, with commas between them. -/
def renderMembers : List (String × Json) → List Char
  | [] => []
  | [(k, v)] => renderString k ++ ':' :: render v
  | (k, v) :: rest => renderString k ++ ':' :: (render v ++ ',' :: renderMembers rest)

end

/-- The compact text of a value, as a string. -/
def text (v : Json) : String :=
  String.ofList v.render

/-! ## The annotated text -/

/-- Two lists joined with a comma and a space, if neither is empty. -/
def joinComma (a b : List Char) : List Char :=
  if b.isEmpty then a else a ++ ',' :: ' ' :: b

mutual

/-- The text of a value in log lines, in which each part is preceded by its kind. -/
def annotated : Json → List Char
  | .null => "Null".toList
  | .bool b => (if b then "Bool(true)" else "Bool(false)").toList
  | .number n => "Number(".toList ++ renderNumber n ++ [')']
  | .string s => "String(".toList ++ Text.quoted s.toList ++ [')']
  | .array items => "Array [".toList ++ annotatedItems items ++ [']']
  | .object members => "Object ".toList ++ '\x7b' :: (annotatedMembers members ++ ['\x7d'])
  | .unreadable => "Null".toList

/-- The items of an array. -/
def annotatedItems : List Json → List Char
  | [] => []
  | v :: rest => joinComma (annotated v) (annotatedItems rest)

/-- The members of an object. -/
def annotatedMembers : List (String × Json) → List Char
  | [] => []
  | (k, v) :: rest =>
    joinComma (Text.quoted k.toList ++ ':' :: ' ' :: annotated v) (annotatedMembers rest)

end

/-- Puts a member into a list sorted by key, in the place of one of the same key. -/
def insertSorted (key : String) (v : Json) : List (String × Json) → List (String × Json)
  | [] => [(key, v)]
  | (k, w) :: rest =>
    if key < k then (key, v) :: (k, w) :: rest
    else if key = k then (key, v) :: rest
    else (k, w) :: insertSorted key v rest

mutual

/-- The value with the members of each object sorted by key; of several members of one key the last
stays. -/
def sorted : Json → Json
  | .array items => .array (sortedItems items)
  | .object members => .object (sortedMembers [] members)
  | v => v

/-- The items of an array, each sorted. -/
def sortedItems : List Json → List Json
  | [] => []
  | v :: rest => sorted v :: sortedItems rest

/-- The members sorted into those already there. -/
def sortedMembers (done : List (String × Json)) : List (String × Json) → List (String × Json)
  | [] => done
  | (k, v) :: rest => sortedMembers (insertSorted k (sorted v) done) rest

end

end Json

end RouterTelemetry
