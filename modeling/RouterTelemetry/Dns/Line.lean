import RouterTelemetry.Text.Word
import RouterTelemetry.Time.Field
import RouterTelemetry.Time.Zone
/-!
# Lines of the resolver's log

A line of the resolver's log says that a client asked for a name, or what the answer for a name was:

    Feb 20 14:21:33 router dnsmasq[1234]: query[A] example.com from 192.168.1.50
    Feb 20 14:21:33 router dnsmasq[1234]: reply example.com is NXDOMAIN

Each shape is a sequence of words and blanks, so that at every point the next character settles what comes
next. The log does not say the year of a line: it is inferred from the time at which the line is read.
-/

namespace RouterTelemetry.Dns

open Text Time

/-- What a line reports. -/
inductive Activity where
  | query (client name type : String)
  /-- The answer for a name; `missing` if there is no such name. -/
  | reply (name : String) (missing : Bool)
deriving DecidableEq, Repr

/-- A line of the log. -/
structure Line where
  time : Instant
  activity : Activity
deriving DecidableEq, Repr

/-- Why a line is not taken. -/
inductive LineError where
  | empty
  | unmatched
  | timestamp (detail : String)
deriving DecidableEq, Repr

/-- The wording of a refusal. -/
def LineError.message : LineError → String
  | .empty => "empty line"
  | .unmatched => "line matches neither the query nor the reply shape"
  | .timestamp detail => "invalid timestamp: " ++ detail

namespace Line

/-! ## Shapes -/

/-- A piece of text that was found at the start of another, and what follows it. -/
abbrev Found := List Char × List Char

/-- The longest run of characters with `p` at the start of `s`, if there is any. -/
def run? (p : Char → Bool) (s : List Char) : Option Found :=
  let r := s.takeWhile p
  if r.isEmpty then none else some (r, s.drop r.length)

/-- Blanks. -/
def blanks? : List Char → Option Found :=
  run? isBlank

/-- A run without blanks. -/
def solid? : List Char → Option Found :=
  run? fun c => !isBlank c

/-- Exactly `n` characters with `p`. -/
def exactly? (n : Nat) (p : Char → Bool) (s : List Char) : Option Found :=
  let r := s.take n
  if r.length = n ∧ r.all p then some (r, s.drop n) else none

/-- What follows the text `t`. -/
def after? : List Char → List Char → Option (List Char)
  | [], s => some s
  | _ :: _, [] => none
  | t :: ts, c :: s => if t = c then after? ts s else none

/-- A clock reading: three pairs of digits with colons between them. -/
def clock? (s : List Char) : Option Found := do
  let (h, s) ← exactly? 2 isDigit s
  let s ← after? [':'] s
  let (m, s) ← exactly? 2 isDigit s
  let s ← after? [':'] s
  let (sec, s) ← exactly? 2 isDigit s
  some (h ++ ':' :: (m ++ ':' :: sec), s)

/-- The stamp of a line: a word of three characters, digits and a clock reading, with blanks between
them. -/
def stamp? (s : List Char) : Option Found := do
  let (month, s) ← exactly? 3 isWord s
  let (b, s) ← blanks? s
  let (day, s) ← run? isDigit s
  let (b', s) ← blanks? s
  let (clock, s) ← clock? s
  some (month ++ b ++ day ++ b' ++ clock, s)

/-- The stamp of a line, and what follows the name of the host and that of the resolver. -/
def heading? (s : List Char) : Option Found := do
  let (stamp, s) ← stamp? s
  let (_, s) ← blanks? s
  let (_, s) ← solid? s
  let (_, s) ← blanks? s
  let s ← after? "dnsmasq[".toList s
  let (_, s) ← run? isDigit s
  let s ← after? "]:".toList s
  let (_, s) ← blanks? s
  some (stamp, s)

/-- Two words with a third, given one between them. -/
def wordsAround? (between : List Char) (s : List Char) : Option (List Char × List Char) := do
  let (first, s) ← solid? s
  let (_, s) ← blanks? s
  let s ← after? between s
  let (_, s) ← blanks? s
  let (second, _) ← solid? s
  some (first, second)

/-- A query after the heading: its type in brackets, the name, and the client. -/
def query? (s : List Char) : Option Activity := do
  let s ← after? "query[".toList s
  let (type, s) ← run? (· != ']') s
  let s ← after? [']'] s
  let (_, s) ← blanks? s
  let (name, client) ← wordsAround? "from".toList s
  some (.query (String.ofList client) (String.ofList name) (String.ofList type))

/-- Whether `t` stands somewhere in `s`. -/
def hasInside (t : List Char) : List Char → Bool
  | [] => t.isEmpty
  | c :: s => t.isPrefixOf (c :: s) || hasInside t s

/-- Whether an answer says that there is no such name. -/
def saysMissing (answer : List Char) : Bool :=
  hasInside "NXDOMAIN".toList (answer.map Char.toUpper)

/-- A reply after the heading: the name and the answer. -/
def reply? (s : List Char) : Option Activity := do
  let s ← after? "reply".toList s
  let (_, s) ← blanks? s
  let (name, answer) ← wordsAround? "is".toList s
  some (.reply (String.ofList name) (saysMissing answer))

/-- The stamp and the report of a line without blanks around it. -/
def shape? (s : List Char) : Option (List Char × Activity) := do
  let (stamp, s) ← heading? s
  let activity ← (query? s).or (reply? s)
  some (stamp, activity)

/-! ## Time -/

/-- How far ahead of the clock a line may be, in nanoseconds, before it counts as one of the year
before: a day. -/
def tolerance : Int :=
  86400 * nanosPerSecond

/-- The instant that a stamp denotes in a year. -/
def instantIn (zone : Zone) (year : Int) (stamp : List Char) : Except LineError Instant :=
  let refuse (reason : String) : LineError :=
    .timestamp (String.ofList stamp ++ ": " ++ reason)
  match readStamp ((toString year).toList ++ ' ' :: normalizeBlanks stamp) with
  | .error e => .error (refuse e.message)
  | .ok reading =>
    match zone.offsetOfLocal? reading.secs with
    | none => .error (refuse "not a valid local time")
    | some off => .ok ⟨reading.secs - off, reading.nanos⟩

/-- The instant of a stamp that is read at `now`: in the local year of `now`, unless that is more than
the tolerance ahead, and then in the year before. -/
def instant (zone : Zone) (stamp : List Char) (now : Instant) : Except LineError Instant := do
  let year := zone.yearAt now
  let t ← instantIn zone year stamp
  if tolerance < t.since now then instantIn zone (year - 1) stamp else .ok t

/-- Reads one line of the log at the time `now`. -/
def parse (zone : Zone) (line : String) (now : Instant) : Except LineError Line :=
  let s := trim line.toList
  if s.isEmpty then .error .empty
  else
    match shape? s with
    | none => .error .unmatched
    | some (stamp, activity) =>
      (instant zone stamp now).map fun t => ⟨t, activity⟩

end Line

end RouterTelemetry.Dns
