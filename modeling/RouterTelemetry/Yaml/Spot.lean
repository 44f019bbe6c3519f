/-!
# Characters with their places

A YAML text is read by indentation, so every character carries the place it stands at. Line breaks of all
kinds are told apart no further once they are located: each is one character.
-/

namespace RouterTelemetry.Yaml

/-- A character at its place. Lines and columns count from zero. -/
structure Spot where
  char : Char
  index : Nat
  line : Nat
  column : Nat
deriving DecidableEq, Repr

/-- A space or a tab. -/
def isGap (c : Char) : Bool :=
  c == ' ' || c == '\t'

/-- A character that ends a line. -/
def isBreak (c : Char) : Bool :=
  c == '\n' || c == '\r' || c.toNat == 0x85 || c.toNat == 0x2028 || c.toNat == 0x2029

/-- Whether the text ends here, or a space, a tab or a line break follows. -/
def endsWord (rest : List Spot) : Bool :=
  match rest with
  | [] => true
  | s :: _ => isGap s.char || isBreak s.char

/-- Whether the next character is `c`. -/
def startsWith (c : Char) (rest : List Spot) : Bool :=
  match rest with
  | [] => false
  | s :: _ => s.char == c

/-- Whether the next character is one of `cs`. -/
def startsWithAny (cs : List Char) (rest : List Spot) : Bool :=
  match rest with
  | [] => false
  | s :: _ => cs.contains s.char

/-- Characters that may stand in a YAML text. -/
def isAllowed (c : Char) : Bool :=
  let n := c.toNat
  n == 0x09 || n == 0x0A || n == 0x0D || (0x20 ≤ n && n ≤ 0x7E) || n == 0x85
    || (0xA0 ≤ n && n ≤ 0xFFFD) || 0x10000 ≤ n

/-- Places the characters of a text from a given place on. A carriage return before a line feed is one
break with it; a break is written as a line feed, save for the two separators of Unicode. -/
def locateFrom (index line column : Nat) : List Char → List Spot
  | [] => []
  | '\r' :: '\n' :: rest =>
    ⟨'\n', index, line, column⟩ :: locateFrom (index + 2) (line + 1) 0 rest
  | c :: rest =>
    if isBreak c then
      let shown := if c == '\r' || c.toNat == 0x85 then '\n' else c
      ⟨shown, index, line, column⟩ :: locateFrom (index + 1) (line + 1) 0 rest
    else ⟨c, index, line, column⟩ :: locateFrom (index + 1) line (column + 1) rest

/-- The characters of a text at their places. A byte order mark in front takes a column. -/
def locate (text : List Char) : List Spot :=
  match locateFrom 0 0 0 text with
  | s :: rest => if s.char.toNat == 0xFEFF then rest else s :: rest
  | [] => []

/-- Whether a marker of three equal characters, such as the one that starts a document, stands here. -/
def atMarker (c : Char) (rest : List Spot) : Bool :=
  match rest with
  | a :: b :: d :: after =>
    a.column == 0 && a.char == c && b.char == c && d.char == c && endsWord after
  | _ => false

/-- Whether a marker of a document's start or end stands here. -/
def atDocumentMarker (rest : List Spot) : Bool :=
  atMarker '-' rest || atMarker '.' rest

end RouterTelemetry.Yaml
