import RouterTelemetry.Proofs.Dns.Calls
/-!
# Requests to the correlator

All that a caller can ask of the correlator, and all that it learns from it: what each flush gives out, what is
known of an address, and the counters. How a flush is made is a parameter, so that two ways can be compared. Main
statement: `answers_eq`, by which two correlators cannot be told apart if each request gets one answer from
both and leaves them related.
-/

namespace RouterTelemetry.Dns

open Time

/-- What a caller may ask: to take in a line, to flush, or what is known of an address. -/
inductive Request where
  | call (c : Call)
  | lookup (ip : String)

/-- What a caller is told. -/
inductive Answer where
  | taken
  | flushed (events : List Event)
  | context (context : Option DnsContext)

/-- The line that is read in a request, if it can be read. -/
def Request.line? (zone : Zone) : Request → Option Line
  | .call c => c.line? zone
  | .lookup _ => none

/-- A way to flush: the events that are given out, and what is left. -/
abbrev Flush := Correlator → Stats → Instant → List Event × Correlator × Stats

/-- The answer to a request, and what is left. -/
def serve (flush : Flush) (zone : Zone) (c : Correlator) (stats : Stats) :
    Request → Answer × Correlator × Stats
  | .call (.line text now) => (.taken, c.processLine zone stats text now)
  | .call (.flush now) =>
    let (events, c, stats) := flush c stats now
    (.flushed events, c, stats)
  | .lookup ip => (.context (c.lookup ip), c, stats)

/-- The answers to some requests, each with the counters after it. -/
def answers (flush : Flush) (zone : Zone) : Correlator → Stats → List Request → List (Answer × Stats)
  | _, _, [] => []
  | c, stats, r :: rs =>
    let (answer, c, stats) := serve flush zone c stats r
    (answer, stats) :: answers flush zone c stats rs

/-- Two ways to serve related requests give one answer and the same counters, and leave the correlators related
that were. -/
def Agree (zone : Zone) (flush flush' : Flush) (R : Correlator → Correlator → Prop) (r r' : Request) : Prop :=
  ∀ c c' stats, R c c' → ∃ answer d d' stats',
    serve flush zone c stats r = (answer, d, stats') ∧
      serve flush' zone c' stats r' = (answer, d', stats') ∧ R d d'

/-- **Two runs.** Correlators that are related cannot be told apart by what callers learn, if no request can
separate them. -/
theorem answers_eq {zone : Zone} {flush flush' : Flush} {R : Correlator → Correlator → Prop}
    {f : Request → Request} {rs : List Request} (hagree : ∀ r ∈ rs, Agree zone flush flush' R r (f r))
    {c c' : Correlator} (h : R c c') (stats : Stats) :
    answers flush zone c stats rs = answers flush' zone c' stats (rs.map f) := by
  induction rs generalizing c c' stats with
  | nil => rfl
  | cons r rs ih =>
    obtain ⟨hr, hrs⟩ := List.forall_mem_cons.mp hagree
    obtain ⟨answer, d, d', stats', hserve, hserve', hd⟩ := hr c c' stats h
    rw [List.map_cons, answers, answers, hserve, hserve']
    exact congrArg ((answer, stats') :: ·) (ih hrs hd stats')

/-- Queries for names with one hash leave the same buckets and the same clients, whatever the names are. -/
theorem observe_query_eq {c c' : Correlator} {n n' : String} (hhash : c'.hash n' = c.hash n)
    (hcapacity : c'.capacity = c.capacity) (hbuckets : c'.buckets = c.buckets) (hclients : c'.clients = c.clients)
    (now t : Instant) (client type : String) :
    (c'.observe now ⟨t, .query client n' type⟩).buckets = (c.observe now ⟨t, .query client n type⟩).buckets ∧
      (c'.observe now ⟨t, .query client n' type⟩).clients = (c.observe now ⟨t, .query client n type⟩).clients := by
  simp only [Correlator.observe, Correlator.remember, hhash, hcapacity, hbuckets, hclients, and_self]

/-- Lines agree if they are read as lines that leave related correlators related. -/
theorem agree_line {zone : Zone} {flush flush' : Flush} {R : Correlator → Correlator → Prop}
    {text text' : String} {now : Instant} {g : Line → Line}
    (hparse : Line.parse zone text' now = (Line.parse zone text now).map g)
    (hobserve : ∀ l, Line.parse zone text now = .ok l → ∀ c c', R c c' →
      R (c.observe now l) (c'.observe now (g l))) :
    Agree zone flush flush' R (.call (.line text now)) (.call (.line text' now)) := by
  intro c c' stats h
  rw [serve, serve, Correlator.processLine, Correlator.processLine, hparse]
  cases hl : Line.parse zone text now with
  | error e => exact ⟨_, _, _, _, rfl, rfl, h⟩
  | ok l => exact ⟨_, _, _, _, rfl, rfl, hobserve l hl c c' h⟩

end RouterTelemetry.Dns
