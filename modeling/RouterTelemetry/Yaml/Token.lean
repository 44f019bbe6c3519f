import RouterTelemetry.Text.Utf8
import RouterTelemetry.Yaml.Scalar

/-!
# Tokens

The tokens of a YAML text. Indentation becomes tokens that open and close blocks. What a mapping's key is
shows only at the colon behind it, so a key and the block it opens are put in afterwards, in front of the
token at which they start.
-/

namespace RouterTelemetry.Yaml

open Text (Bytes)

/-- A token. -/
inductive Token where
  | version (major minor : Nat)
  | shorthand (handle expansion : String)
  | documentStart
  | documentEnd
  | blockSequenceStart
  | blockMappingStart
  | blockEnd
  | flowSequenceStart
  | flowSequenceEnd
  | flowMappingStart
  | flowMappingEnd
  | blockEntry
  | flowEntry
  | key
  | value
  | alias (name : String)
  | anchor (name : String)
  | tag (handle suffix : String)
  | scalar (plain : Bool) (text : String)
deriving DecidableEq, Repr

/-! ## Names, tags and directives -/

/-- Characters of names. -/
def isNameChar (c : Char) : Bool :=
  c.isAlphanum || c == '_' || c == '-'

/-- The name at the front. -/
def name (rest : List Spot) : List Char × List Spot :=
  let n := rest.takeWhile (isNameChar ·.char)
  (n.map (·.char), rest.drop n.length)

/-- The name of an anchor, behind its mark. -/
def anchorName (rest : List Spot) : Option (String × List Spot) :=
  let (n, rest) := name rest
  let ends := endsWord rest
    || startsWithAny ['?', ':', ',', ']', '\x7d', '%', '@', '\x60'] rest
  if n.isEmpty || !ends then none else some (String.ofList n, rest)

/-- The bytes written as a percent sign and two hexadecimal digits each, at the front. -/
def percentBytes : List Spot → Option (Bytes × List Spot)
  | p :: a :: b :: rest =>
    if p.char == '%' then do
      let x ← hexDigit? a.char
      let y ← hexDigit? b.char
      let (bs, r) ← percentBytes rest
      some (UInt8.ofNat (x * 16 + y) :: bs, r)
    else some ([], p :: a :: b :: rest)
  | rest => if startsWith '%' rest then none else some ([], rest)

/-- Characters of addresses; in some places commas and brackets are not. -/
def isAddressChar (brackets : Bool) (c : Char) : Bool :=
  isNameChar c || (";/?:@&=+$.!~*()".toList.contains c) || c == singleQuote
    || (brackets && (c == ',' || c == '[' || c == ']'))

/-- The address at the front. -/
def address (brackets : Bool) : Nat → List Spot → Option (List Char × List Spot)
  | 0, rest => some ([], rest)
  | fuel + 1, rest =>
    match rest with
    | [] => some ([], [])
    | s :: more =>
      if s.char == '%' then do
        let (bytes, rest) ← percentBytes rest
        let cs ← Text.decodeUtf8? bytes
        let (a, r) ← address brackets fuel rest
        some (cs ++ a, r)
      else if isAddressChar brackets s.char then
        (address brackets fuel more).map fun (a, r) => (s.char :: a, r)
      else some ([], s :: more)

/-- The address at the front, which may not be empty. -/
def address? (brackets : Bool) (rest : List Spot) : Option (List Char × List Spot) :=
  match address brackets (rest.length + 1) rest with
  | some ([], _) => none
  | r => r

/-- Whether a tag may end here. -/
def endsTag (flow : Bool) (rest : List Spot) : Bool :=
  endsWord rest || (flow && startsWith ',' rest)

/-- The tag at the front: its handle, which is empty for one that needs no expansion, and its suffix. -/
def tagToken (flow : Bool) (rest : List Spot) : Option (Token × List Spot) := do
  let after := rest.drop 1
  let (handle, suffix, rest) ←
    if startsWith '<' after then do
      let (a, r) ← address? true (after.drop 1)
      if startsWith '>' r then some ([], a, r.drop 1) else none
    else
      let (n, r) := name after
      if startsWith '!' r then do
        let (a, r) ← address? false (r.drop 1)
        some ('!' :: n ++ ['!'], a, r)
      else do
        let (a, r) ← address false (r.length + 1) r
        if (n ++ a).isEmpty then some ([], ['!'], r) else some (['!'], n ++ a, r)
  if endsTag flow rest then some (.tag (String.ofList handle) (String.ofList suffix), rest)
  else none

/-- The number at the front, of at most nine digits. -/
def versionNumber (rest : List Spot) : Option (Nat × List Spot) :=
  let ds := rest.takeWhile (·.char.isDigit)
  if ds.isEmpty || 9 < ds.length then none
  else some (Nat.ofDigitChars 10 (ds.map (·.char)) 0, rest.drop ds.length)

/-- The directive at the front, behind its mark. -/
def directive (rest : List Spot) : Option (Token × List Spot) := do
  let gapAfter (rest : List Spot) := rest.dropWhile (isGap ·.char)
  let (n, rest) := name rest
  if n.isEmpty || !endsWord rest then none
  else
    let rest := gapAfter rest
    let (token, rest) ←
      if n = "YAML".toList then do
        let (major, rest) ← versionNumber rest
        if startsWith '.' rest then
          let (minor, rest) ← versionNumber (rest.drop 1)
          some (Token.version major minor, rest)
        else none
      else if n = "TAG".toList then do
        if startsWith '!' rest then
          let (h, rest) := name (rest.drop 1)
          let (handle, rest) := if startsWith '!' rest then ('!' :: h ++ ['!'], rest.drop 1)
            else ('!' :: h, rest)
          if (handle.length = 1 || handle.getLast? == some '!') && startsWithAny [' ', '\t'] rest then
            let (a, rest) ← address? true (gapAfter rest)
            if endsWord rest then
              some (Token.shorthand (String.ofList handle) (String.ofList a), rest)
            else none
          else none
        else none
      else none
    let rest ← skipComment rest
    some (token, rest)

/-! ## The state between two tokens -/

/-- A place at which a key may have started. -/
structure PossibleKey where
  /-- The number of tokens in front of it. -/
  token : Nat
  spot : Spot
  /-- Nothing but a key can stand there. -/
  required : Bool

/-- What has been read, and what may come next. -/
structure Scanner where
  rest : List Spot
  /-- The tokens, the latest first. -/
  tokens : List Token := []
  /-- Whether a key may start here. -/
  keyAllowed : Bool := true
  /-- For each flow collection around, the innermost first, and for the block around them, where a key
  may have started. -/
  keys : List (Option PossibleKey) := [none]
  /-- The column of the innermost block, `-1` outside all blocks. -/
  indent : Int := -1
  /-- The columns of the blocks around it. -/
  outer : List Int := []

namespace Scanner

/-- Whether a flow collection is open. -/
def flow (s : Scanner) : Bool :=
  1 < s.keys.length

def push (t : Token) (s : Scanner) : Scanner :=
  { s with tokens := t :: s.tokens }

/-- Puts a token in so that `n` tokens stand in front of it. -/
def insert (n : Nat) (t : Token) (s : Scanner) : Scanner :=
  let later := s.tokens.length - n
  { s with tokens := s.tokens.take later ++ t :: s.tokens.drop later }

/-- Skips spaces, comments and line breaks, and tabs where no key can start. A line break allows a key,
except in flow collections. -/
def skipGaps (flow : Bool) : (allowed comment : Bool) → List Spot → Bool × List Spot
  | allowed, _, [] => (allowed, [])
  | allowed, comment, s :: rest =>
    if isBreak s.char then skipGaps flow (allowed || !flow) false rest
    else if comment then skipGaps flow allowed true rest
    else if s.char == ' ' || (s.char == '\t' && (flow || !allowed)) then
      skipGaps flow allowed false rest
    else if s.char == '#' then skipGaps flow allowed true rest
    else (allowed, s :: rest)

/-- Gives up the possible keys that lie on an earlier line or too far back. -/
def expireKeys (here : Spot) (s : Scanner) : Option Scanner := do
  let keys ← s.keys.mapM fun k =>
    match k with
    | none => some none
    | some k =>
      if k.spot.line < here.line || k.spot.index + 1024 < here.index then
        if k.required then none else some none
      else some (some k)
  some { s with keys }

/-- Gives up the innermost possible key. -/
def dropKey (s : Scanner) : Option Scanner :=
  match s.keys with
  | some k :: outer => if k.required then none else some { s with keys := none :: outer }
  | _ => some s

/-- Notes that a key may start here. -/
def saveKey (here : Spot) (s : Scanner) : Option Scanner :=
  if s.keyAllowed then do
    let s ← s.dropKey
    let k : PossibleKey :=
      ⟨s.tokens.length, here, !s.flow && s.indent == (here.column : Int)⟩
    some { s with keys := some k :: s.keys.drop 1 }
  else some s

/-- Closes the blocks of a list that are indented deeper than `column`. -/
def closeBlocks (column : Int) : Int → List Int → List Token → Int × List Int × List Token
  | indent, [], tokens => (indent, [], tokens)
  | indent, i :: outer, tokens =>
    if column < indent then closeBlocks column i outer (.blockEnd :: tokens)
    else (indent, i :: outer, tokens)

/-- Closes the blocks indented deeper than `column`. -/
def unroll (column : Int) (s : Scanner) : Scanner :=
  if s.flow then s
  else
    let (indent, outer, tokens) := closeBlocks column s.indent s.outer s.tokens
    { s with indent, outer, tokens }

/-- Opens a block at `column`, if it is indented deeper than the innermost, behind the first `n`
tokens. -/
def roll (column : Nat) (n : Nat) (t : Token) (s : Scanner) : Scanner :=
  if s.flow || (column : Int) ≤ s.indent then s
  else { s.insert n t with indent := column, outer := s.indent :: s.outer }

/-- Goes on behind a token that a key cannot follow at once. -/
def goOn (t : Token) (rest : List Spot) (s : Scanner) : Scanner :=
  { s.push t with rest, keyAllowed := false }

/-- The mark `-` of a block sequence's entry. -/
def blockEntry (here : Spot) (rest : List Spot) (s : Scanner) : Option Scanner := do
  let s ← if s.flow then some s
    else if s.keyAllowed then some (s.roll here.column s.tokens.length .blockSequenceStart)
    else none
  let s ← s.dropKey
  some { s.push .blockEntry with rest, keyAllowed := true }

/-- The mark `?` of a key. -/
def keyMark (here : Spot) (rest : List Spot) (s : Scanner) : Option Scanner := do
  let s ← if s.flow then some s
    else if s.keyAllowed then some (s.roll here.column s.tokens.length .blockMappingStart)
    else none
  let s ← s.dropKey
  some { s.push .key with rest, keyAllowed := !s.flow }

/-- The mark `:` of a value: it makes the innermost possible key one. -/
def valueMark (here : Spot) (rest : List Spot) (s : Scanner) : Option Scanner :=
  match s.keys with
  | some k :: outer =>
    let s := { s.insert k.token .key with keys := none :: outer }
    let s := s.roll k.spot.column k.token .blockMappingStart
    some { s.push .value with rest, keyAllowed := false }
  | _ => do
    let s ← if s.flow then some s
      else if s.keyAllowed then some (s.roll here.column s.tokens.length .blockMappingStart)
      else none
    some { s.push .value with rest, keyAllowed := !s.flow }

/-- The mark that opens a flow collection. -/
def openFlow (t : Token) (here : Spot) (rest : List Spot) (s : Scanner) : Option Scanner := do
  let s ← s.saveKey here
  some { s.push t with rest, keys := none :: s.keys, keyAllowed := true }

/-- The mark that closes a flow collection. -/
def closeFlow (t : Token) (rest : List Spot) (s : Scanner) : Option Scanner := do
  let s ← s.dropKey
  let keys := if s.flow then s.keys.drop 1 else s.keys
  some { s.push t with rest, keys, keyAllowed := false }

/-- A mark of a document, or a directive: outside all blocks. -/
def outside (t : Token) (rest : List Spot) (s : Scanner) : Option Scanner := do
  let s ← (s.unroll (-1)).dropKey
  some (s.goOn t rest)

/-- Whether a plain scalar starts with `c`. -/
def startsPlain (flow : Bool) (c : Char) (rest : List Spot) : Bool :=
  let marks := "-?:,[]#&*!|>\"%@".toList ++ [singleQuote, '\x7b', '\x7d', '\x60']
  !marks.contains c
    || (c == '-' && !startsWithAny [' ', '\t'] rest)
    || (!flow && (c == '?' || c == ':') && !endsWord rest)

/-- Reads the token that starts with the character `here`, in front of `rest`. -/
def next (here : Spot) (rest : List Spot) (s : Scanner) : Option Scanner := do
  let s ← s.expireKeys here
  let s := s.unroll here.column
  let c := here.char
  let all := here :: rest
  if here.column == 0 && c == '%' then
    let (t, after) ← directive rest
    s.outside t after
  else if atMarker '-' all then s.outside .documentStart (all.drop 3)
  else if atMarker '.' all then s.outside .documentEnd (all.drop 3)
  else if c == '[' then s.openFlow .flowSequenceStart here rest
  else if c == '\x7b' then s.openFlow .flowMappingStart here rest
  else if c == ']' then s.closeFlow .flowSequenceEnd rest
  else if c == '\x7d' then s.closeFlow .flowMappingEnd rest
  else if c == ',' then
    let s ← s.dropKey
    some { s.push .flowEntry with rest, keyAllowed := true }
  else if c == '-' && endsWord rest then s.blockEntry here rest
  else if c == '?' && (s.flow || endsWord rest) then s.keyMark here rest
  else if c == ':' && (s.flow || endsWord rest) then s.valueMark here rest
  else if c == '*' then
    let s ← s.saveKey here
    let (n, after) ← anchorName rest
    some (s.goOn (.alias n) after)
  else if c == '&' then
    let s ← s.saveKey here
    let (n, after) ← anchorName rest
    some (s.goOn (.anchor n) after)
  else if c == '!' then
    let s ← s.saveKey here
    let (t, after) ← tagToken s.flow all
    some (s.goOn t after)
  else if (c == '|' || c == '>') && !s.flow then
    let s ← s.dropKey
    let (text, after) ← blockScalar (c == '|') s.indent rest
    some { s.push (.scalar false (String.ofList text)) with rest := after, keyAllowed := true }
  else if c == singleQuote || c == '"' then
    let s ← s.saveKey here
    let (text, after) ← quotedScalar (c == singleQuote) rest
    some (s.goOn (.scalar false (String.ofList text)) after)
  else if startsPlain s.flow c rest then
    let s ← s.saveKey here
    let (text, broken, after) ← plainScalar s.flow s.indent all
    some { s.push (.scalar true (String.ofList text)) with rest := after, keyAllowed := broken }
  else none

/-- Reads tokens up to the end of the text. Each takes a character at least, so the number of characters
is fuel enough. -/
def run : Nat → Scanner → Option Scanner
  | 0, _ => none
  | fuel + 1, s =>
    match skipGaps s.flow s.keyAllowed false s.rest with
    | (_, []) => (s.unroll (-1)).dropKey
    | (keyAllowed, here :: rest) =>
      match Scanner.next here rest { s with keyAllowed } with
      | some s => run fuel s
      | none => none

end Scanner

/-- The tokens of a text. -/
def tokens? (text : List Char) : Option (List Token) :=
  if text.all isAllowed then
    let rest := locate text
    (Scanner.run (rest.length + 1) { rest }).map fun s => s.tokens.reverse
  else none

end RouterTelemetry.Yaml
