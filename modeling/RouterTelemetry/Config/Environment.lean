import RouterTelemetry.Config.Value
import RouterTelemetry.Numeric.Decimal
import RouterTelemetry.Text.Blank

/-!
# Settings in the environment

Environment variables whose names start with the agent's mark are settings. A value is read as a truth
value, an integer, a number, a quoted text, a list or a table if it has the form of one as a whole, and is a
text otherwise.
-/

namespace RouterTelemetry.Config

open Numeric (Binary64 Decimal)
open Text

namespace Environment

/-! ## Values -/

/-- Blanks between the parts of a value. -/
def isGap (c : Char) : Bool :=
  c == ' ' || c == '\t' || c == '\n' || c == '\r' || c.toNat == 12

def skipGap (s : List Char) : List Char :=
  s.dropWhile isGap

/-- Characters that end a scalar. -/
def isMark (c : Char) : Bool :=
  c == ',' || c == '\x7b' || c == '\x7d' || c == '[' || c == ']'

/-- The mark around single characters. -/
def characterMark : Char := Char.ofNat 39

/-- What a backslash and a letter stand for. -/
def escaped? (c : Char) : Option Char :=
  match c with
  | '"' => some '"'
  | '\\' => some '\\'
  | 'b' => some (Char.ofNat 8)
  | 'f' => some (Char.ofNat 12)
  | 'n' => some '\n'
  | 'r' => some '\r'
  | 't' => some '\t'
  | _ => none

/-- The text up to the closing quote, with `digits` digits of a character's code to come behind those of
`code`. Controls other than the tab must not stand in it. -/
def quotedText (digits code : Nat) : List Char → Option (List Char × List Char)
  | [] => none
  | c :: rest =>
    match digits with
    | more + 1 => do
      let code := code * 16 + (← Numeric.digitValue? 16 c)
      if more = 0 then
        if code.isValidChar then
          let (s, r) ← quotedText 0 0 rest
          some (Char.ofNat code :: s, r)
        else none
      else quotedText more code rest
    | 0 =>
      if c = '"' then some ([], rest)
      else if c = '\\' then
        match rest with
        | [] => none
        | e :: rest' =>
          if e = 'u' then quotedText 4 0 rest'
          else if e = 'U' then quotedText 8 0 rest'
          else do
            let x ← escaped? e
            let (s, r) ← quotedText 0 0 rest'
            some (x :: s, r)
      else if c ≠ '\t' ∧ (c.toNat < 0x20 ∨ c.toNat = 0x7F) then none
      else do
        let (s, r) ← quotedText 0 0 rest
        some (c :: s, r)

/-- What a scalar without quotes stands for. -/
def scalar (s : List Char) : Value :=
  let number := if s.contains '.' then Decimal.ofText? s else none
  match number with
  | some d =>
    match Binary64.ofDecimal? d.negative d.digits d.exponent with
    | some x => .real x
    | none => .unbounded
  | none =>
    let (negative, ds) := Numeric.splitSign s
    match Numeric.ofDigits? 10 ds with
    | some n =>
      if negative then if n ≤ Nat.pow 2 63 then .integer (-(n : Int)) else .text (String.ofList s)
      else if n < Nat.pow 2 64 then .integer n else .text (String.ofList s)
    | none => .text (String.ofList s)

/-- The text behind a word at the front. -/
def afterWord? (word : String) (s : List Char) : Option (List Char) :=
  let w := word.toList
  if w.isPrefixOf s then some (s.drop w.length) else none

/-- Characters of keys without quotes. -/
def isKeyChar (c : Char) : Bool :=
  c.isAlphanum || c == '_' || c == '-'

/-- The key of a table's entry at the front. -/
def key (s : List Char) : Option (String × List Char) :=
  match s with
  | '"' :: rest => (quotedText 0 0 rest).map fun (k, r) => (String.ofList k, r)
  | _ =>
    let k := s.takeWhile isKeyChar
    if k.isEmpty then none else some (String.ofList k, s.drop k.length)

mutual

/-- The value at the front. -/
def value : Nat → List Char → Option (Value × List Char)
  | 0, _ => none
  | fuel + 1, s => do
    let s := skipGap s
    let (v, rest) ←
      match afterWord? "true" s with
      | some rest => some (.bool true, rest)
      | none => match afterWord? "false" s with
        | some rest => some (.bool false, rest)
        | none => match s with
          | '\x7b' :: rest => (entries fuel rest).map fun (es, r) => (.table (Value.ofEntries es), r)
          | '[' :: rest => (items fuel rest).map fun (vs, r) => (.list vs, r)
          | '"' :: rest => (quotedText 0 0 rest).map fun (t, r) => (.text (String.ofList t), r)
          | c :: rest =>
            if c = characterMark then
              match rest with
              | x :: y :: rest => if y = characterMark then some (.text (String.ofList [x]), rest) else none
              | _ => none
            else
              let t := s.takeWhile (!isMark ·)
              some (scalar (trim t), s.drop t.length)
          | [] => some (.text "", [])
    some (v, skipGap rest)

/-- The items of a list behind its opening mark, or behind a comma. -/
def items : Nat → List Char → Option (List Value × List Char)
  | 0, _ => none
  | fuel + 1, s =>
    match s with
    | ']' :: rest => some ([], rest)
    | _ => do
      let (v, rest) ← value fuel s
      match rest with
      | ',' :: rest => (items fuel rest).map fun (vs, r) => (v :: vs, r)
      | ']' :: rest => some ([v], rest)
      | _ => none

/-- The entries of a table behind its opening mark, or behind a comma. -/
def entries : Nat → List Char → Option (List (String × Value) × List Char)
  | 0, _ => none
  | fuel + 1, s =>
    match s with
    | '\x7d' :: rest => some ([], rest)
    | _ => do
      let (k, rest) ← key (skipGap s)
      match skipGap rest with
      | '=' :: rest =>
        let (v, rest) ← value fuel rest
        match rest with
        | ',' :: rest => (entries fuel rest).map fun (es, r) => ((k, v) :: es, r)
        | '\x7d' :: rest => some ([(k, v)], rest)
        | _ => none
      | _ => none

end

/-- What the value of a variable stands for. -/
def ofText (s : String) : Value :=
  let cs := trim s.toList
  let plain := Value.text (String.ofList cs)
  if cs.isEmpty then plain
  else match value (2 * cs.length + 2) cs with
    | some (v, []) => v
    | _ => plain

/-! ## Variables -/

/-- The mark in front of the names of the agent's variables. -/
def mark : String := "NETMON_"

/-- The setting that a variable's name denotes, without regard to case. -/
def settingName? (v : String) : Option String :=
  let name := (String.ofList (trim v.toList)).toLower
  let m := mark.toLower
  if name.startsWith m && name.length != m.length then
    some (String.ofList (name.toList.drop m.length))
  else none

/-- A value inside the tables that the parts of a name denote, up to an empty part. -/
def nest : List String → Value → Value
  | [], v => v
  | p :: rest, v => if p.isEmpty then v else .table [(p, nest rest v)]

/-- The settings with that of a variable besides, if it holds one. -/
def add (es : List (String × Value)) (entry : String × String) : List (String × Value) :=
  match settingName? entry.1 with
  | some n =>
    match nest ((n.toList.splitOn '.').map String.ofList) (ofText entry.2) with
    | .table new => Value.mergeEntries es new
    | _ => es
  | none => es

/-- The settings that variables hold. -/
def settings (vars : List (String × String)) : List (String × Value) :=
  vars.foldl add []

end Environment

end RouterTelemetry.Config
