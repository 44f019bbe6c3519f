import RouterTelemetry.Dns.Correlator
/-!
# The events of a flush

What a flush gives out: its buckets, and behind them what it says of clients. Main statements:

* `bucketsOf_events` and `identitiesOf_events` : each bucket and each client once;
* `bucketsFirst_events` : the buckets come first;
* `time_events` : all of it is stamped with the time of the flush.
-/

namespace RouterTelemetry.Dns

open Time

/-! ## Buckets -/

/-- The bucket that an event carries. -/
def bucketOf? : Event → Option DnsBucket
  | ⟨_, .dnsBucket b⟩ => some b
  | _ => none

/-- The buckets that some events carry. -/
def bucketsOf (es : List Event) : List DnsBucket :=
  es.filterMap bucketOf?

theorem bucketsOf_append (es es' : List Event) :
    bucketsOf (es ++ es') = bucketsOf es ++ bucketsOf es' :=
  List.filterMap_append

/-- A flush gives out each bucket once. -/
theorem bucketsOf_events (c : Correlator) (now : Instant) : bucketsOf (c.events now) = c.buckets := by
  have hclients : ∀ e ∈ c.clients.map (fun p => (⟨now, .hostIdentity (Correlator.identity p.1 p.2)⟩ : Event)),
      bucketOf? e = none := by
    intro e he
    obtain ⟨p, -, rfl⟩ := List.mem_map.mp he
    rfl
  rw [Correlator.events, bucketsOf, List.filterMap_append, List.filterMap_eq_nil_iff.mpr hclients,
    List.append_nil, List.filterMap_map]
  exact List.filterMap_some

/-! ## Identities -/

/-- The identity that an event carries. -/
def identityOf? : Event → Option HostIdentity
  | ⟨_, .hostIdentity h⟩ => some h
  | _ => none

/-- The identities that some events carry. -/
def identitiesOf (es : List Event) : List HostIdentity :=
  es.filterMap identityOf?

/-- A flush says of each client once what is known of it. -/
theorem identitiesOf_events (c : Correlator) (now : Instant) :
    identitiesOf (c.events now) = c.clients.map fun p => Correlator.identity p.1 p.2 := by
  have hbuckets : ∀ e ∈ c.buckets.map (fun b => (⟨now, .dnsBucket b⟩ : Event)), identityOf? e = none := by
    intro e he
    obtain ⟨b, -, rfl⟩ := List.mem_map.mp he
    rfl
  rw [Correlator.events, identitiesOf, List.filterMap_append, List.filterMap_eq_nil_iff.mpr hbuckets,
    List.nil_append, List.filterMap_map]
  show c.clients.filterMap (some ∘ fun p => Correlator.identity p.1 p.2) = _
  rw [List.filterMap_eq_map]

/-! ## Order and time -/

/-- Buckets, and then identities, and nothing else. -/
def BucketsFirst (es : List Event) : Prop :=
  ∃ bs is : List Event, es = bs ++ is ∧ (∀ e ∈ bs, (bucketOf? e).isSome = true) ∧
    ∀ e ∈ is, (identityOf? e).isSome = true

/-- A flush gives out buckets before identities. -/
theorem bucketsFirst_events (c : Correlator) (now : Instant) : BucketsFirst (c.events now) := by
  refine ⟨_, _, rfl, fun e he => ?_, fun e he => ?_⟩
  · obtain ⟨b, -, rfl⟩ := List.mem_map.mp he
    rfl
  · obtain ⟨k, -, rfl⟩ := List.mem_map.mp he
    rfl

/-- All that a flush gives out is stamped with its time. -/
theorem time_events (c : Correlator) (now : Instant) : ∀ e ∈ c.events now, e.time = now := by
  intro e he
  rcases List.mem_append.mp he with he | he
  · obtain ⟨b, -, rfl⟩ := List.mem_map.mp he
    rfl
  · obtain ⟨p, -, rfl⟩ := List.mem_map.mp he
    rfl

end RouterTelemetry.Dns
