import RouterTelemetry.LogLevel
/-!
# Log lines

How the agent writes an event to its log: a fixed mark by which its lines are found in a shared log, the
level, the spans around the event from the outermost inwards, the message and the fields.
-/

namespace RouterTelemetry

open Text

namespace LogLine

/-- The mark at the start of every event. -/
def mark : String := "NETMON_AGENT"

/-- The value of a field. -/
inductive Value where
  | int (i : Int)
  | bool (b : Bool)
  | text (s : String)
deriving DecidableEq, Repr

/-- A value as it is written: texts are quoted. -/
def Value.render : Value → List Char
  | .int i => (toString i).toList
  | .bool b => (if b then "true" else "false").toList
  | .text s => quoted s.toList

/-- A field of an event or a span. -/
structure Field where
  name : String
  value : Value
deriving DecidableEq, Repr

/-- A field as it is written. -/
def Field.render (f : Field) : List Char :=
  f.name.toList ++ '=' :: f.value.render

/-- Fields with a space between any two. -/
def renderFields (fs : List Field) : List Char :=
  [' '].intercalate (fs.map Field.render)

/-- A span that an event happens in. -/
structure Span where
  name : String
  fields : List Field
deriving DecidableEq, Repr

/-- A span as it is written: its name, and its fields in braces if it has any. -/
def Span.render (s : Span) : List Char :=
  s.name.toList
    ++ (if s.fields.isEmpty then [] else '\x7b' :: (renderFields s.fields ++ ['\x7d']))
    ++ [':', ' ']

/-- How one character of a message is written: those that steer a terminal by their code. -/
def messageChar (c : Char) : List Char :=
  if c = Char.ofNat 0x1B then "\\x1b".toList
  else if c = Char.ofNat 0x07 then "\\x07".toList
  else if c = Char.ofNat 0x08 then "\\x08".toList
  else if c = Char.ofNat 0x0C then "\\x0c".toList
  else if c = Char.ofNat 0x7F then "\\x7f".toList
  else if 0x80 ≤ c.toNat ∧ c.toNat ≤ 0x9F then codePointEscape c
  else [c]

/-- Something to be logged. The spans are given from the outermost inwards. -/
structure Event where
  level : LogLevel
  spans : List Span := []
  message : String
  fields : List Field := []
deriving DecidableEq, Repr

/-- The text that is written for an event. -/
def Event.render (e : Event) : List Char :=
  mark.toList ++ " | ".toList ++ e.level.name.toList ++ " | ".toList
    ++ e.spans.flatMap Span.render
    ++ e.message.toList.flatMap messageChar
    ++ e.fields.flatMap (fun f => ' ' :: f.render)
    ++ ['\n']

/-- The text of an event without fields, outside all spans. -/
def plain (level : LogLevel) (message : String) : List Char :=
  { level, message : Event }.render

end LogLine

/-- The lines of a text, each without the line feed that ends it; what follows the last line feed is a
line if there is anything. -/
def linesOf (s : List Char) : List (List Char) :=
  let (done, last) := s.foldl
    (fun (acc : List (List Char) × List Char) c =>
      if c = '\n' then (acc.2.reverse :: acc.1, []) else (acc.1, c :: acc.2)) ([], [])
  (if last.isEmpty then done else last.reverse :: done).reverse

end RouterTelemetry
