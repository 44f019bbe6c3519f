import RouterTelemetry.Dns.Correlator
/-!
# Calls of the correlator

Any number of lines and flushes, one after the other, and what they leave behind. Main statements:

* `Session.calls_concat` : one more call at the end;
* `sinceFlush_line` and `sinceFlush_flush` : which calls came after the last flush.
-/

namespace RouterTelemetry.Dns

open Time

/-- A call of the correlator. -/
inductive Call where
  | line (text : String) (now : Instant)
  | flush (now : Instant)

/-- The correlator with its counters, and the events that it has given out so far. -/
structure Session where
  correlator : Correlator
  stats : Stats
  events : List Event := []

namespace Session

/-- The session after a call. -/
def call (zone : Zone) (s : Session) : Call → Session
  | .line text now =>
    let (correlator, stats) := s.correlator.processLine zone s.stats text now
    { s with correlator, stats }
  | .flush now =>
    let (events, correlator, stats) := s.correlator.flush s.stats now
    { correlator, stats, events := s.events ++ events }

/-- The session after some calls. -/
def calls (zone : Zone) (s : Session) (cs : List Call) : Session :=
  cs.foldl (call zone) s

/-- The session of a new correlator. -/
def start (hash : String → String) (capacity : Nat) (stats : Stats) : Session :=
  { correlator := { hash, capacity }, stats }

theorem calls_concat (zone : Zone) (s : Session) (cs : List Call) (c : Call) :
    s.calls zone (cs ++ [c]) = (s.calls zone cs).call zone c := by
  rw [calls, List.foldl_append]
  rfl

end Session

/-! ## Lines -/

namespace Call

/-- Whether a call hands in a line. -/
def isLine : Call → Bool
  | .line _ _ => true
  | .flush _ => false

/-- The line that is read in a call, if it can be read. -/
def line? (zone : Zone) : Call → Option Line
  | .line text now => (Line.parse zone text now).toOption
  | .flush _ => none

/-- What is read in a call is read from its line. -/
theorem exists_parse {zone : Zone} {c : Call} {l : Line} (h : c.line? zone = some l) :
    ∃ text now, c = .line text now ∧ Line.parse zone text now = .ok l := by
  cases c with
  | flush now => exact absurd h (by simp [line?])
  | line text now =>
    refine ⟨text, now, rfl, ?_⟩
    rw [line?] at h
    cases hp : Line.parse zone text now with
    | error e => exact absurd h (by simp [hp, Except.toOption])
    | ok l' =>
      rw [hp] at h
      rw [Option.some.inj h]

/-- Whether a call hands in a line that cannot be read. -/
def isUnreadable (zone : Zone) (c : Call) : Bool :=
  c.isLine && (c.line? zone).isNone

end Call

/-- The calls after the last flush, or all if there was none. -/
def sinceFlush (cs : List Call) : List Call :=
  (cs.reverse.takeWhile Call.isLine).reverse

theorem sinceFlush_line (cs : List Call) (text : String) (now : Instant) :
    sinceFlush (cs ++ [.line text now]) = sinceFlush cs ++ [.line text now] := by
  rw [sinceFlush, sinceFlush, List.reverse_concat, List.takeWhile_cons_of_pos rfl, List.reverse_cons]

theorem sinceFlush_flush (cs : List Call) (now : Instant) :
    sinceFlush (cs ++ [.flush now]) = [] := by
  rw [sinceFlush, List.reverse_concat, List.takeWhile_cons_of_neg Bool.false_ne_true]
  rfl

/-- The key under which a query is counted. -/
def Line.queryKey? (hash : String → String) (l : Line) : Option BucketKey :=
  match l.activity with
  | .query client name type => some ⟨client, type, hash name, l.time.truncateToMinute⟩
  | .reply _ _ => none

/-- The key under which the query that is read in a call is counted. -/
def Call.queryKey? (zone : Zone) (hash : String → String) (c : Call) : Option BucketKey :=
  (c.line? zone).bind (Line.queryKey? hash)

/-! ## What a call does -/

namespace Session

/-- A line that can be read is taken in. -/
theorem call_line_of_some {zone : Zone} {text : String} {now : Instant} {l : Line}
    (h : (Call.line text now).line? zone = some l) (s : Session) :
    s.call zone (.line text now) =
      { s with correlator := s.correlator.observe now l, stats := s.stats.incr .dnsLines } := by
  rw [Call.line?] at h
  cases hp : Line.parse zone text now with
  | error e => exact absurd h (by simp [hp, Except.toOption])
  | ok l' =>
    rw [hp] at h
    obtain rfl := Option.some.inj h
    simp only [call, Correlator.processLine, hp]

/-- A line that cannot be read is only counted. -/
theorem call_line_of_none {zone : Zone} {text : String} {now : Instant}
    (h : (Call.line text now).line? zone = none) (s : Session) :
    s.call zone (.line text now) =
      { s with stats := (s.stats.incr .dnsLines).incr .dnsParseErrors } := by
  rw [Call.line?] at h
  cases hp : Line.parse zone text now with
  | ok l => exact absurd h (by simp [hp, Except.toOption])
  | error e => simp only [call, Correlator.processLine, hp]

end Session

end RouterTelemetry.Dns
