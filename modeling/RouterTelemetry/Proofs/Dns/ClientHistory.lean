import Mathlib.Data.List.Induction
import RouterTelemetry.Proofs.Dns.BucketCounts
import RouterTelemetry.Proofs.Dns.Names
import RouterTelemetry.Proofs.Dns.Requests
import RouterTelemetry.Proofs.Ring.Window
/-!
# Histories of clients

What is said of a client, by a lookup or by a flush, is what it has asked for lately: the hashes of its last names,
and when its last line was read. Nothing but its own queries changes that. Main statements:

* `Line.client_ne_empty` : every query that is read has a client;
* `Remembers.request` : what one request preserves;
* `history_kept` : what is said of a client after any requests.
-/

namespace RouterTelemetry.Dns

open Time

/-! ## Queries of a client -/

/-- A query, as the history of its client keeps it: the hash of the name, and the time at which its line was
read. -/
structure Asking where
  hashed : String
  read : Instant

/-- The query of the client `ip` in a line that is read at the time `now`. -/
def Line.asking? (hash : String → String) (ip : String) (now : Instant) (l : Line) : Option Asking :=
  match l.activity with
  | .query client name _ => if client = ip then some ⟨hash name, now⟩ else none
  | .reply _ _ => none

/-- The query of the client `ip` that is read in a request. -/
def Request.asking? (zone : Zone) (hash : String → String) (ip : String) : Request → Option Asking
  | .call (.line text now) => ((Call.line text now).line? zone).bind (Line.asking? hash ip now)
  | .call (.flush _) => none
  | .lookup _ => none

/-- The queries of a client that are read in some requests, in their order. -/
def askings (zone : Zone) (hash : String → String) (ip : String) (rs : List Request) : List Asking :=
  rs.filterMap (Request.asking? zone hash ip)

theorem askings_concat (zone : Zone) (hash : String → String) (ip : String) (rs : List Request) (r : Request) :
    askings zone hash ip (rs ++ [r]) = askings zone hash ip rs ++ (r.asking? zone hash ip).toList := by
  rw [askings, List.filterMap_append]
  cases h : r.asking? zone hash ip with
  | none => rw [List.filterMap_cons_none h]; rfl
  | some a => rw [List.filterMap_cons_some h]; rfl

/-- **A query that is read has a client.** -/
theorem Line.client_ne_empty {zone : Zone} {text : String} {now : Instant} {l : Line}
    {client name type : String} (h : Line.parse zone text now = .ok l)
    (hquery : l.activity = .query client name type) : client.isEmpty = false := by
  obtain ⟨stamp, hshape, -⟩ := shape?_of_parse h
  simp only [shape?, hquery, Option.bind_eq_bind, Option.bind_eq_some_iff, Option.some.injEq, Prod.exists,
    Prod.mk.injEq, Option.or_eq_some_iff] at hshape
  obtain ⟨_, s, -, _, hread, -, rfl⟩ := hshape
  rcases hread with hread | ⟨-, hread⟩
  · -- the client is the second of the words around the one between
    rw [query?_eq] at hread
    obtain ⟨p, -, hwords⟩ := Option.bind_eq_some_iff.mp hread
    obtain ⟨⟨first, second⟩, hwords, heq⟩ := Option.map_eq_some_iff.mp hwords
    simp only [wordsAround?, Option.bind_eq_bind, Option.bind_eq_some_iff, Option.some.injEq,
      Prod.mk.injEq, Prod.exists] at hwords
    obtain ⟨_, _, -, _, _, -, _, -, _, _, -, _, _, hsecond, rfl, rfl⟩ := hwords
    obtain ⟨-, hne, -, -⟩ := run?_eq_some_iff.mp hsecond
    obtain ⟨rfl, -, -⟩ := Activity.query.inj heq
    simpa using hne
  · rw [reply?_eq] at hread
    obtain ⟨p, -, hwords⟩ := Option.bind_eq_some_iff.mp hread
    obtain ⟨w, -, heq⟩ := Option.map_eq_some_iff.mp hwords
    exact absurd heq (by simp)

/-! ## What is kept of a client -/

/-- What is kept of a client after some queries: nothing if there were none. -/
def clientOf (capacity : Nat) (as : List Asking) : Option Client :=
  as.getLast?.map fun a => ⟨a.read, (Ring.empty capacity).pushAll (as.map Asking.hashed)⟩

/-- The names that are kept of a client, or room for them. -/
def namesOf (capacity : Nat) (k : Option Client) : Ring String :=
  match k with
  | some k => k.names
  | none => Ring.empty capacity

theorem namesOf_clientOf (capacity : Nat) (as : List Asking) :
    namesOf capacity (clientOf capacity as) = (Ring.empty capacity).pushAll (as.map Asking.hashed) := by
  rw [clientOf]
  cases h : as.getLast? with
  | none =>
    rw [List.getLast?_eq_none_iff.mp h]
    rfl
  | some a => rfl

/-- One more query is remembered behind the others. -/
theorem clientOf_concat (capacity : Nat) (as : List Asking) (a : Asking) :
    clientOf capacity (as ++ [a]) =
      some ⟨a.read, (namesOf capacity (clientOf capacity as)).push a.hashed⟩ := by
  rw [namesOf_clientOf, ← Ring.pushAll_concat, clientOf, List.getLast?_concat, List.map_append]
  rfl

namespace Correlator

theorem find?_remember (c : Correlator) (client hashed ip : String) (now : Instant) :
    Table.find? ip (c.remember client hashed now) =
      if client = ip then some ⟨now, (namesOf c.capacity (Table.find? ip c.clients)).push hashed⟩
      else Table.find? ip c.clients := by
  rw [remember, Table.find?_put]
  by_cases h : client = ip
  · subst h
    rw [if_pos rfl, if_pos rfl]
    cases Table.find? client c.clients <;> rfl
  · rw [if_neg h, if_neg h]

theorem clients_observe_query (c : Correlator) (now t : Instant) {client : String}
    (h : client.isEmpty = false) (name type : String) :
    (c.observe now ⟨t, .query client name type⟩).clients = c.remember client (c.hash name) now := by
  simp [observe, h]

theorem clients_observe_reply (c : Correlator) (now t : Instant) (name : String) (missing : Bool) :
    (c.observe now ⟨t, .reply name missing⟩).clients = c.clients := by
  cases missing with
  | false => rfl
  | true =>
    unfold observe
    dsimp only
    split
    · rfl
    · split <;> rfl

theorem capacity_observe (c : Correlator) (now : Instant) (l : Line) :
    (c.observe now l).capacity = c.capacity := by
  unfold observe
  split
  · rfl
  · split
    · rfl
    · split <;> rfl
  · rfl

end Correlator

/-! ## Requests -/

/-- The correlator and the counters after some requests. -/
def serveAll (zone : Zone) (s : Correlator × Stats) (rs : List Request) : Correlator × Stats :=
  rs.foldl (fun s r => (serve Correlator.flush zone s.1 s.2 r).2) s

theorem serveAll_concat (zone : Zone) (s : Correlator × Stats) (rs : List Request) (r : Request) :
    serveAll zone s (rs ++ [r]) =
      (serve Correlator.flush zone (serveAll zone s rs).1 (serveAll zone s rs).2 r).2 := by
  rw [serveAll, List.foldl_append]
  rfl

/-- What a request that is a line does to the correlator: the line is taken in, if it can be read. -/
theorem serve_line (zone : Zone) (c : Correlator) (stats : Stats) (text : String) (now : Instant) :
    (serve Correlator.flush zone c stats (.call (.line text now))).2.1 =
      match (Call.line text now).line? zone with
      | some l => c.observe now l
      | none => c := by
  rw [serve, Correlator.processLine, Call.line?]
  cases Line.parse zone text now <;> rfl

/-- The correlator keeps of each client what the queries of some requests tell. -/
structure Remembers (zone : Zone) (hash : String → String) (capacity : Nat) (rs : List Request)
    (c : Correlator) : Prop where
  hash_eq : c.hash = hash
  capacity_eq : c.capacity = capacity
  nodup : (c.clients.map Prod.fst).Nodup
  find?_clients : ∀ ip, Table.find? ip c.clients = clientOf capacity (askings zone hash ip rs)

namespace Remembers

variable {zone : Zone} {hash : String → String} {capacity : Nat} {rs : List Request} {c : Correlator}

theorem start (zone : Zone) (hash : String → String) (capacity : Nat) :
    Remembers zone hash capacity [] { hash, capacity } where
  hash_eq := rfl
  capacity_eq := rfl
  nodup := List.nodup_nil
  find?_clients := fun _ => rfl

/-- A request that is no query, and leaves the clients as they are. -/
theorem of_clients_eq (h : Remembers zone hash capacity rs c) {r : Request} {d : Correlator}
    (hnone : ∀ ip, r.asking? zone hash ip = none) (hhash : d.hash = c.hash) (hcapacity : d.capacity = c.capacity)
    (hclients : d.clients = c.clients) : Remembers zone hash capacity (rs ++ [r]) d where
  hash_eq := hhash.trans h.hash_eq
  capacity_eq := hcapacity.trans h.capacity_eq
  nodup := hclients ▸ h.nodup
  find?_clients := by
    intro ip
    rw [hclients, askings_concat, hnone ip, h.find?_clients]
    exact congrArg (clientOf capacity) (List.append_nil _).symm

/-- **A line.** A query is remembered under its client. -/
theorem line (h : Remembers zone hash capacity rs c) {text : String} {now : Instant} {l : Line}
    (hl : (Call.line text now).line? zone = some l) :
    Remembers zone hash capacity (rs ++ [.call (.line text now)]) (c.observe now l) := by
  obtain ⟨t, activity⟩ := l
  cases activity with
  | reply name missing =>
    refine h.of_clients_eq ?_ (hash_observe ..) (c.capacity_observe ..) (c.clients_observe_reply ..)
    intro ip
    rw [Request.asking?, hl]
    rfl
  | query client name type =>
    have hne : client.isEmpty = false := by
      obtain ⟨_, _, -, hparse⟩ := Call.exists_parse hl
      exact Line.client_ne_empty hparse rfl
    refine ⟨(hash_observe ..).trans h.hash_eq, (c.capacity_observe ..).trans h.capacity_eq, ?_, ?_⟩
    · rw [c.clients_observe_query now t hne]
      exact Table.nodup_put _ _ h.nodup
    · intro ip
      rw [c.clients_observe_query now t hne, c.find?_remember, askings_concat, h.find?_clients,
        h.capacity_eq, h.hash_eq, Request.asking?, hl, Option.bind_some, Line.asking?]
      dsimp only
      by_cases hip : client = ip
      · rw [if_pos hip, if_pos hip]
        exact (clientOf_concat capacity _ ⟨hash name, now⟩).symm
      · rw [if_neg hip, if_neg hip]
        exact congrArg (clientOf capacity) (List.append_nil _).symm

/-- **What one request preserves.** -/
theorem request (h : Remembers zone hash capacity rs c) (stats : Stats) (r : Request) :
    Remembers zone hash capacity (rs ++ [r]) (serve Correlator.flush zone c stats r).2.1 := by
  cases r with
  | lookup ip => exact h.of_clients_eq (fun _ => rfl) rfl rfl rfl
  | call call =>
    cases call with
    | flush now => exact h.of_clients_eq (fun _ => rfl) rfl rfl rfl
    | line text now =>
      rw [serve_line]
      cases hl : (Call.line text now).line? zone with
      | some l => exact h.line hl
      | none =>
        refine h.of_clients_eq ?_ rfl rfl rfl
        intro ip
        rw [Request.asking?, hl]
        rfl

/-- **What all requests together leave behind.** -/
theorem requests (zone : Zone) (hash : String → String) (capacity : Nat) (stats : Stats)
    (rs : List Request) : Remembers zone hash capacity rs (serveAll zone ({ hash, capacity }, stats) rs).1 := by
  induction rs using List.reverseRecOn with
  | nil => exact start zone hash capacity
  | append_singleton rs r ih =>
    rw [serveAll_concat]
    exact ih.request _ r

end Remembers

/-! ## What is said of a client -/

/-- What some events say of a client. -/
def saidOf (ip : String) (es : List Event) : List HostIdentity :=
  (identitiesOf es).filter fun h => h.ip = ip

/-- A flush says of a client what is kept of it. -/
theorem saidOf_events {c : Correlator} (h : (c.clients.map Prod.fst).Nodup) (ip : String) (now : Instant) :
    saidOf ip (c.events now) = ((Table.find? ip c.clients).map (Correlator.identity ip)).toList := by
  have hfilter : c.clients.filter ((fun i : HostIdentity => decide (i.ip = ip)) ∘
      fun p => Correlator.identity p.1 p.2) = ((Table.find? ip c.clients).map (ip, ·)).toList :=
    Table.filter_key_eq h ip
  rw [saidOf, identitiesOf_events, List.filter_map, hfilter]
  cases Table.find? ip c.clients <;> rfl

/-- What is said of the client `ip` after some queries of it. -/
structure Tells (capacity : Nat) (ip : String) (as : List Asking) (c : Correlator) : Prop where
  /-- Nothing is said of a client that has asked for nothing. -/
  unknown : as = [] → c.lookup ip = none ∧ ∀ stats now, saidOf ip (c.flush stats now).1 = []
  /-- Of any other one, the hashes of the last names are told, the oldest first, and when its last line was
  read. -/
  known : ∀ a, as.getLast? = some a →
    c.lookup ip = some ⟨(as.map Asking.hashed).rtake capacity, String.ofList a.read.secondsText⟩ ∧
      ∀ stats now, saidOf ip (c.flush stats now).1 = [⟨ip, a.read, (as.map Asking.hashed).rtake capacity⟩]
  /-- A flush gives out its buckets before it says anything of clients. -/
  ordered : ∀ stats now, BucketsFirst (c.flush stats now).1

/-- What is said is what is kept. -/
theorem Remembers.tells {zone : Zone} {hash : String → String} {capacity : Nat} {rs : List Request}
    {c : Correlator} (h : Remembers zone hash capacity rs c) (ip : String) :
    Tells capacity ip (askings zone hash ip rs) c where
  unknown := by
    intro hnil
    have hnone : Table.find? ip c.clients = none := by
      rw [h.find?_clients, hnil]
      rfl
    refine ⟨by rw [Correlator.lookup, hnone]; rfl, fun stats now => ?_⟩
    show saidOf ip (c.events now) = []
    rw [saidOf_events h.nodup, hnone]
    rfl
  known := by
    intro a ha
    have hsome : Table.find? ip c.clients =
        some ⟨a.read, (Ring.empty capacity).pushAll ((askings zone hash ip rs).map Asking.hashed)⟩ := by
      rw [h.find?_clients, clientOf, ha]
      rfl
    refine ⟨?_, fun stats now => ?_⟩
    · rw [Correlator.lookup, hsome, Option.map_some, Ring.toList_pushAll]
    · show saidOf ip (c.events now) = _
      rw [saidOf_events h.nodup, hsome, Option.map_some, Correlator.identity, Ring.toList_pushAll]
      rfl
  ordered := fun _ now => bucketsFirst_events c now

/-- A request that is no query of a client changes nothing that is said of it. -/
theorem Remembers.untouched {zone : Zone} {hash : String → String} {capacity : Nat} {rs : List Request}
    {c : Correlator} (h : Remembers zone hash capacity rs c) {ip : String} {r : Request}
    (hnone : r.asking? zone hash ip = none) (stats : Stats) :
    (serve Correlator.flush zone c stats r).2.1.lookup ip = c.lookup ip ∧
      ∀ now, saidOf ip ((serve Correlator.flush zone c stats r).2.1.events now) = saidOf ip (c.events now) := by
  have hafter := h.request stats r
  have hsame : Table.find? ip (serve Correlator.flush zone c stats r).2.1.clients =
      Table.find? ip c.clients := by
    rw [hafter.find?_clients, h.find?_clients, askings_concat, hnone]
    exact congrArg (clientOf capacity) (List.append_nil _)
  refine ⟨?_, fun now => ?_⟩
  · rw [Correlator.lookup, Correlator.lookup, hsame]
  · rw [saidOf_events hafter.nodup, saidOf_events h.nodup, hsame]

/-- **Histories are exact.** After any lines, flushes and lookups, all that is said of a client is what its own
queries tell, and a request that is no query of the client changes nothing of it. -/
theorem history_kept (zone : Zone) (hash : String → String) (capacity : Nat) (stats : Stats)
    (rs : List Request) (ip : String) :
    let c := (serveAll zone ({ hash, capacity }, stats) rs).1
    Tells capacity ip (askings zone hash ip rs) c ∧
      ∀ r stats, r.asking? zone hash ip = none →
        let d := (serve Correlator.flush zone c stats r).2.1
        d.lookup ip = c.lookup ip ∧
          ∀ stats stats' now, saidOf ip (d.flush stats now).1 = saidOf ip (c.flush stats' now).1 := by
  intro c
  have h := Remembers.requests zone hash capacity stats rs
  refine ⟨h.tells ip, fun r stats' hnone => ?_⟩
  obtain ⟨hlookup, hsaid⟩ := h.untouched hnone stats'
  exact ⟨hlookup, fun _ _ now => hsaid now⟩

end RouterTelemetry.Dns
