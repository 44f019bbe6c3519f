import RouterTelemetry.Yaml.Spot

/-!
# Scalars

The texts that the scalar styles of YAML denote: plain and quoted scalars, in which line breaks are folded,
and block scalars, which keep or fold the lines of an indented block. Each reader starts behind the mark
that opens the scalar and gives the text and what follows it, or `none` if the scalar is malformed.
-/

namespace RouterTelemetry.Yaml

/-! ## The gap between two words -/

/-- What separates two words of a flow scalar: spaces on one line, or line breaks. -/
structure Gap where
  spaces : List Char := []
  breaks : List Char := []

/-- What a gap denotes: spaces stand for themselves, one line break for a space, and of several the first
is dropped. -/
def Gap.text (g : Gap) : List Char :=
  match g.breaks with
  | [] => g.spaces
  | b :: more => if b != '\n' then b :: more else if more.isEmpty then [' '] else more

/-- The gap at the front. A tab in front of column `indent` on a new line is an error. -/
def gap (indent : Int) (g : Gap) : List Spot → Option (Gap × List Spot)
  | [] => some (g, [])
  | s :: rest =>
    if isBreak s.char then gap indent { g with breaks := g.breaks ++ [s.char] } rest
    else if isGap s.char then
      if g.breaks.isEmpty then gap indent { g with spaces := g.spaces ++ [s.char] } rest
      else if s.char == '\t' && (s.column : Int) < indent then none
      else gap indent g rest
    else some (g, s :: rest)

/-! ## Plain scalars -/

/-- The characters that delimit flow collections. -/
def flowMarks : List Char :=
  [',', '[', ']', '\x7b', '\x7d']

/-- The word at the front of a plain scalar. Inside a flow collection it ends at the collection's marks. -/
def plainWord (flow : Bool) : List Spot → Option (List Char × List Spot)
  | [] => some ([], [])
  | s :: rest =>
    if isGap s.char || isBreak s.char then some ([], s :: rest)
    else if s.char == ':' && flow && startsWithAny ('?' :: flowMarks) rest then none
    else if (s.char == ':' && endsWord rest) || (flow && flowMarks.contains s.char) then
      some ([], s :: rest)
    else (plainWord flow rest).map fun (w, r) => (s.char :: w, r)

/-- The words of a plain scalar behind `done`; `between` is the gap in front of them. Also tells whether a
line break was passed after the last word. -/
def plainWords (flow : Bool) (indent : Int) :
    Nat → List Char → Gap → List Spot → Option (List Char × Bool × List Spot)
  | 0, _, _, _ => none
  | fuel + 1, done, between, rest =>
    let stop := some (done, !between.breaks.isEmpty, rest)
    if atDocumentMarker rest || startsWith '#' rest then stop
    else do
      let (word, rest') ← plainWord flow rest
      if word.isEmpty then stop
      else
        let done := done ++ between.text ++ word
        let (g, after) ← gap indent {} rest'
        match after with
        | [] => some (done, !g.breaks.isEmpty, [])
        | s :: _ =>
          if (g.spaces.isEmpty && g.breaks.isEmpty) || (!flow && (s.column : Int) < indent) then
            some (done, !g.breaks.isEmpty, after)
          else plainWords flow indent fuel done g after

/-- The plain scalar at the front, inside a block indented to `indent`. -/
def plainScalar (flow : Bool) (indent : Int) (rest : List Spot) :
    Option (List Char × Bool × List Spot) :=
  plainWords flow (indent + 1) (rest.length + 1) [] {} rest

/-! ## Quoted scalars -/

/-- How a word of a quoted scalar ends. -/
inductive WordEnd where
  | quote
  | gap
  /-- A line break that a backslash takes out of the text. -/
  | joined

/-- The value of a hexadecimal digit. -/
def hexDigit? (c : Char) : Option Nat :=
  if '0' ≤ c ∧ c ≤ '9' then some (c.toNat - '0'.toNat)
  else if 'a' ≤ c ∧ c ≤ 'f' then some (c.toNat - 'a'.toNat + 10)
  else if 'A' ≤ c ∧ c ≤ 'F' then some (c.toNat - 'A'.toNat + 10)
  else none

/-- The character of a code point, if there is one. -/
def charOfCode? (n : Nat) : Option Char :=
  if n.isValidChar then some (Char.ofNat n) else none

/-- What a backslash and a letter stand for. -/
def escaped? (c : Char) : Option Char :=
  match c with
  | '0' => some (Char.ofNat 0)
  | 'a' => some (Char.ofNat 7)
  | 'b' => some (Char.ofNat 8)
  | 't' => some '\t'
  | '\t' => some '\t'
  | 'n' => some '\n'
  | 'v' => some (Char.ofNat 11)
  | 'f' => some (Char.ofNat 12)
  | 'r' => some '\r'
  | 'e' => some (Char.ofNat 27)
  | ' ' => some ' '
  | '"' => some '"'
  | '/' => some '/'
  | '\\' => some '\\'
  | 'N' => some (Char.ofNat 0x85)
  | '_' => some (Char.ofNat 0xA0)
  | 'L' => some (Char.ofNat 0x2028)
  | 'P' => some (Char.ofNat 0x2029)
  | _ => none

/-- How many hexadecimal digits follow a backslash and a letter. -/
def codeLength? (c : Char) : Option Nat :=
  match c with
  | 'x' => some 2
  | 'u' => some 4
  | 'U' => some 8
  | _ => none

/-- The mark around single quoted scalars. -/
def singleQuote : Char := Char.ofNat 39

/-- The word at the front of a single quoted scalar, in which two marks stand for one. -/
def singleWord : List Spot → Option (List Char × WordEnd × List Spot)
  | [] => none
  | [s] =>
    if s.char == singleQuote then some ([], .quote, [])
    else if isGap s.char || isBreak s.char then some ([], .gap, [s])
    else none
  | s :: t :: rest =>
    if s.char == singleQuote then
      if t.char == singleQuote then
        (singleWord rest).map fun (w, e, r) => (singleQuote :: w, e, r)
      else some ([], .quote, t :: rest)
    else if isGap s.char || isBreak s.char then some ([], .gap, s :: t :: rest)
    else (singleWord (t :: rest)).map fun (w, e, r) => (s.char :: w, e, r)

/-- The word at the front of a double quoted scalar, with `digits` digits of a character's code to come
behind those of `code`. -/
def doubleWord (digits code : Nat) : List Spot → Option (List Char × WordEnd × List Spot)
  | [] => none
  | s :: rest =>
    match digits with
    | more + 1 => do
      let d ← hexDigit? s.char
      let code := code * 16 + d
      if more = 0 then
        let c ← charOfCode? code
        let (w, e, r) ← doubleWord 0 0 rest
        some (c :: w, e, r)
      else doubleWord more code rest
    | 0 =>
      if s.char == '"' then some ([], .quote, rest)
      else if isGap s.char || isBreak s.char then some ([], .gap, s :: rest)
      else if s.char == '\\' then
        match rest with
        | [] => none
        | t :: rest' =>
          if isBreak t.char then some ([], .joined, rest')
          else match codeLength? t.char with
            | some n => doubleWord n 0 rest'
            | none => do
              let c ← escaped? t.char
              let (w, e, r) ← doubleWord 0 0 rest'
              some (c :: w, e, r)
      else do
        let (w, e, r) ← doubleWord 0 0 rest
        some (s.char :: w, e, r)

/-- The words of a quoted scalar behind `done`, up to the closing mark. -/
def quotedWords (single : Bool) : Nat → List Char → List Spot → Option (List Char × List Spot)
  | 0, _, _ => none
  | fuel + 1, done, rest =>
    if atDocumentMarker rest then none
    else do
      let (word, ending, rest) ← if single then singleWord rest else doubleWord 0 0 rest
      let done := done ++ word
      match ending with
      | .quote => some (done, rest)
      | .gap =>
        let (g, rest) ← gap 0 {} rest
        quotedWords single fuel (done ++ g.text) rest
      | .joined =>
        -- The break itself is out of the text, so later ones are all kept.
        let (g, rest) ← gap 0 { breaks := [Char.ofNat 0] } rest
        quotedWords single fuel (done ++ g.breaks.drop 1) rest

/-- The quoted scalar at the front, behind its opening mark. -/
def quotedScalar (single : Bool) (rest : List Spot) : Option (List Char × List Spot) :=
  quotedWords single (rest.length + 1) [] rest

/-! ## Block scalars -/

/-- What happens to the line breaks at the end of a block scalar. -/
inductive Chomping where
  | strip
  | clip
  | keep

/-- The empty lines at the front, and the deepest column at which one of them or the line behind them
starts. The indentation is `0` where it is still to be found. -/
def blockBreaks (indent deepest : Nat) : List Spot → Option (List Char × Nat × List Spot)
  | [] => some ([], deepest, [])
  | s :: rest =>
    let inside := indent == 0 || s.column < indent
    if inside && s.char == ' ' then blockBreaks indent deepest rest
    else
      let deepest := max deepest s.column
      if inside && s.char == '\t' then none
      else if isBreak s.char then
        (blockBreaks indent deepest rest).map fun (bs, d, r) => (s.char :: bs, d, r)
      else some ([], deepest, s :: rest)

/-- What is known of a block scalar between two of its lines: the text without the last line's break,
that break, whether the last line starts with a gap, and the empty lines after it. -/
structure BlockText where
  done : List Char := []
  lineBreak : List Char := []
  gapFirst : Bool := false
  emptyLines : List Char := []

/-- The lines of a block scalar. -/
def blockLines (literal : Bool) (indent : Nat) :
    Nat → BlockText → List Spot → Option (BlockText × List Spot)
  | 0, _, _ => none
  | fuel + 1, b, rest =>
    match rest with
    | [] => some (b, [])
    | s :: _ =>
      if s.column != indent then some (b, rest)
      else do
        let gapFirst := isGap s.char
        let joint :=
          if !literal && b.lineBreak.head? == some '\n' && !b.gapFirst && !gapFirst then
            if b.emptyLines.isEmpty then [' '] else []
          else b.lineBreak
        let line := rest.takeWhile (!isBreak ·.char)
        let after := rest.drop line.length
        let (lineBreak, after) := match after with
          | [] => ([], [])
          | e :: more => ([e.char], more)
        let (emptyLines, _, after) ← blockBreaks indent 0 after
        blockLines literal indent fuel
          ⟨b.done ++ joint ++ b.emptyLines ++ line.map (·.char), lineBreak, gapFirst, emptyLines⟩ after

/-- The chomping mark at the front, if there is one. -/
def chomping? : List Spot → Option (Chomping × List Spot)
  | s :: rest =>
    if s.char == '+' then some (.keep, rest) else if s.char == '-' then some (.strip, rest) else none
  | [] => none

/-- The digit of an indentation at the front, `0` where none stands there. -/
def increment? : List Spot → Option (Nat × List Spot)
  | s :: rest =>
    if s.char.isDigit then if s.char == '0' then none else some (s.char.toNat - '0'.toNat, rest)
    else some (0, s :: rest)
  | [] => some (0, [])

/-- The marks behind the one that opens a block scalar, in either order. -/
def blockHeader (rest : List Spot) : Option (Chomping × Nat × List Spot) :=
  match chomping? rest with
  | some (c, rest) => (increment? rest).map fun (n, r) => (c, n, r)
  | none => do
    let (n, rest) ← increment? rest
    if n = 0 then some (.clip, 0, rest)
    else match chomping? rest with
      | some (c, rest) => some (c, n, rest)
      | none => some (.clip, n, rest)

/-- The rest of a line that holds nothing but a comment, from the next line on. -/
def skipComment (rest : List Spot) : Option (List Spot) :=
  let rest := rest.dropWhile (isGap ·.char)
  let rest := if startsWith '#' rest then rest.dropWhile (!isBreak ·.char) else rest
  match rest with
  | [] => some []
  | s :: rest => if isBreak s.char then some rest else none

/-- The block scalar at the front, behind its opening mark, inside a block indented to `parent`. -/
def blockScalar (literal : Bool) (parent : Int) (rest : List Spot) :
    Option (List Char × List Spot) := do
  let (chomping, increment, rest) ← blockHeader rest
  let rest ← skipComment rest
  let indent := if increment = 0 then 0 else (max parent 0).toNat + increment
  let (emptyLines, deepest, rest) ← blockBreaks indent 0 rest
  let indent := if indent = 0 then max (max deepest (parent + 1).toNat) 1 else indent
  let (b, rest) ← blockLines literal indent (rest.length + 1) { emptyLines } rest
  let text := match chomping with
    | .strip => b.done
    | .clip => b.done ++ b.lineBreak
    | .keep => b.done ++ b.lineBreak ++ b.emptyLines
  some (text, rest)

end RouterTelemetry.Yaml
