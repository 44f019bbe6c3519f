import RouterTelemetry.Dns.Line
import RouterTelemetry.Event.Basic
import RouterTelemetry.Ring
import RouterTelemetry.Stats
import RouterTelemetry.Table

/-!
# The correlator

Counts queries by client, type, hashed name and minute, and keeps a history of hashed names for each client.
A reply does not say who asked, so the answer that there is no such name is put down to the last query for
the same name. Names themselves never leave the correlator; it holds the hash function that hides them.
-/

namespace RouterTelemetry.Dns

open Time

/-- What queries are counted by. -/
structure BucketKey where
  clientIp : String
  qtype : String
  qnameHash : String
  bucketStart : Instant
deriving DecidableEq, Repr

/-- The key of a bucket. -/
def bucketKey (b : DnsBucket) : BucketKey :=
  ⟨b.clientIp, b.qtype, b.qnameHash, b.bucketStart⟩

/-- The most recent query for a name: the key it was counted under, and its time. -/
structure LastQuery where
  key : BucketKey
  seen : Instant
deriving DecidableEq, Repr

/-- What is known of a client: when a line about it was last read, and the names it asked for. -/
structure Client where
  lastSeen : Instant
  names : Ring String

/-- The state of the correlator. -/
structure Correlator where
  /-- How names are hidden. -/
  hash : String → String
  /-- How many names of a client are kept. -/
  capacity : Nat
  /-- The buckets since the last flush, in order of their first queries. -/
  buckets : List DnsBucket := []
  lastQueries : List (String × LastQuery) := []
  clients : List (String × Client) := []

namespace Correlator

/-- How long after a query a reply may come, in nanoseconds: two minutes. -/
def window : Int := 120 * nanosPerSecond

/-- How long the last query for a name is kept, in nanoseconds: five minutes. -/
def retention : Nat := 300 * nanosPerSecond

/-- Counts a query under a key. -/
def countQuery (k : BucketKey) : List DnsBucket → List DnsBucket
  | [] => [⟨k.bucketStart, k.clientIp, k.qtype, k.qnameHash, 1, 0⟩]
  | b :: rest =>
    if bucketKey b = k then { b with count := b.count + 1 } :: rest else b :: countQuery k rest

/-- Counts a missing name under a key, if its bucket is still there. -/
def countMissing (k : BucketKey) (bs : List DnsBucket) : List DnsBucket :=
  bs.map fun b => if bucketKey b = k then { b with nxdomain := b.nxdomain + 1 } else b

/-- Adds a name to the history of a client. -/
def remember (c : Correlator) (ip hashed : String) (now : Instant) : List (String × Client) :=
  let names := match Table.find? ip c.clients with
    | some k => k.names
    | none => Ring.empty c.capacity
  Table.put ip ⟨now, names.push hashed⟩ c.clients

/-- Takes in a line that is read at the time `now`. -/
def observe (c : Correlator) (now : Instant) (l : Line) : Correlator :=
  match l.activity with
  | .query client name type =>
    let hashed := c.hash name
    let key : BucketKey := ⟨client, type, hashed, l.time.truncateToMinute⟩
    { c with
      clients := if client.isEmpty then c.clients else c.remember client hashed now
      buckets := countQuery key c.buckets
      lastQueries := Table.put name ⟨key, l.time⟩ c.lastQueries }
  | .reply name true =>
    match Table.find? name c.lastQueries with
    | none => c
    | some q =>
      if window < l.time.since q.seen then c
      else { c with buckets := countMissing q.key c.buckets }
  | .reply _ false => c

/-- Reads a line of the log. -/
def processLine (zone : Zone) (c : Correlator) (stats : Stats) (line : String) (now : Instant) :
    Correlator × Stats :=
  let stats := stats.incr .dnsLines
  match Line.parse zone line now with
  | .ok l => (c.observe now l, stats)
  | .error _ => (c, stats.incr .dnsParseErrors)

/-- What the history of a client says. -/
def identity (ip : String) (k : Client) : HostIdentity :=
  ⟨ip, k.lastSeen, k.names.toList⟩

/-- The events of the buckets, and then those of the clients. -/
def events (c : Correlator) (now : Instant) : List Event :=
  c.buckets.map (fun b => ⟨now, .dnsBucket b⟩)
    ++ c.clients.map fun (ip, k) => ⟨now, .hostIdentity (identity ip k)⟩

/-- The last queries that are recent enough at the time `now` to be kept. -/
def recentQueries (c : Correlator) (now : Instant) : List (String × LastQuery) :=
  Table.keep (fun q => (now.before retention).le q.seen) c.lastQueries

/-- Gives out the buckets and the state of all clients, and starts new buckets. -/
def flush (c : Correlator) (stats : Stats) (now : Instant) : List Event × Correlator × Stats :=
  (c.events now, { c with buckets := [], lastQueries := c.recentQueries now },
    c.buckets.foldl (fun s _ => s.incr .dnsBucketsEmitted) stats)

/-- What is known of an address. -/
def lookup (c : Correlator) (ip : String) : Option DnsContext :=
  (Table.find? ip c.clients).map fun k =>
    ⟨k.names.toList, String.ofList k.lastSeen.secondsText⟩

end Correlator

end RouterTelemetry.Dns
