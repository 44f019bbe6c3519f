import RouterTelemetry.Proofs.Dns.MissingNames
import RouterTelemetry.Proofs.Dns.Requests
/-!
# Forgetting last queries cannot be seen

A flush forgets the last queries that are too old. A reply may still come in time for one of them, as the clock of
the log may be behind the clock of the flush, but it would count nothing: the bucket of the query has been given
out, and comes back only with another query under its key. Where no two names share a hash, that is a query for the
same name, which takes the place of the forgotten one. Main statements:

* `Pruned.observe` and `Pruned.flush` : what each request preserves;
* `pruning_unseen` : what all requests together show.
-/

namespace RouterTelemetry.Dns

open Time
open Correlator (countMissing)

/-- A flush that forgets no last query. -/
def Correlator.flushKeeping : Flush := fun c stats now =>
  let (events, d, stats) := c.flush stats now
  (events, { d with lastQueries := c.lastQueries }, stats)

/-- The name that a line asks for. -/
def Line.asked? (l : Line) : Option String :=
  match l.activity with
  | .query _ name _ => some name
  | .reply _ _ => none

/-- The names that are asked for in some requests. -/
def askedNames (zone : Zone) (rs : List Request) : List String :=
  rs.filterMap fun r => (r.line? zone).bind Line.asked?

/-- The first correlator has forgotten some last queries of the second one, each of which has a bucket that has
been given out. -/
structure Pruned (hash : String → String) (names : List String) (c c' : Correlator) : Prop where
  hash_eq : c.hash = hash
  hash_eq' : c'.hash = hash
  capacity : c'.capacity = c.capacity
  buckets : c'.buckets = c.buckets
  clients : c'.clients = c.clients
  nodup : (c.lastQueries.map Prod.fst).Nodup
  lastQuery : ∀ n, Table.find? n c.lastQueries = Table.find? n c'.lastQueries ∨
    (Table.find? n c.lastQueries = none ∧
      ∀ q, Table.find? n c'.lastQueries = some q → q.key ∉ c.buckets.map bucketKey)
  /-- Every last query is one for its name, and is counted under the hash of it. -/
  asked : ∀ n q, Table.find? n c'.lastQueries = some q → n ∈ names ∧ q.key.qnameHash = hash n

namespace Pruned

variable {hash : String → String} {names : List String} {c c' : Correlator}

/-- New correlators have forgotten nothing. -/
theorem start (hash : String → String) (names : List String) (capacity : Nat) :
    Pruned hash names { hash, capacity } { hash, capacity } where
  hash_eq := rfl
  hash_eq' := rfl
  capacity := rfl
  buckets := rfl
  clients := rfl
  nodup := List.nodup_nil
  lastQuery := fun _ => Or.inl rfl
  asked := fun _ _ h => absurd h (by simp [Table.find?])

/-- **A query.** It is the last one for its name in both correlators, and brings back no bucket of a query for
another name. -/
theorem query (h : Pruned hash names c c')
    (hinj : ∀ n ∈ names, ∀ m ∈ names, hash n = hash m → n = m) {n : String} (hn : n ∈ names)
    (now t : Instant) (client type : String) :
    Pruned hash names (c.observe now ⟨t, .query client n type⟩)
      (c'.observe now ⟨t, .query client n type⟩) := by
  have hhash : c'.hash = c.hash := h.hash_eq'.trans h.hash_eq.symm
  obtain ⟨k, hk⟩ : ∃ k : BucketKey, ⟨client, type, c.hash n, t.truncateToMinute⟩ = k := ⟨_, rfl⟩
  have hkey : k.qnameHash = hash n := by rw [← hk, h.hash_eq]
  obtain ⟨hbuckets, hclients⟩ :=
    observe_query_eq (congrFun hhash n) h.capacity h.buckets h.clients now t client type
  refine ⟨h.hash_eq, h.hash_eq', h.capacity, hbuckets, hclients, ?_, ?_, ?_⟩
  · exact Table.nodup_put _ _ h.nodup
  · intro m
    simp only [Correlator.observe, hhash, hk, Table.find?_put]
    by_cases hm : n = m
    · exact Or.inl (by rw [if_pos hm, if_pos hm])
    · rw [if_neg hm, if_neg hm]
      refine (h.lastQuery m).imp_right fun hforgotten => ⟨hforgotten.1, fun q hq hin => ?_⟩
      -- the bucket of the forgotten query is one for another name, and so has another hash
      have hne : q.key ≠ k := by
        rintro rfl
        obtain ⟨hmem, hhashed⟩ := h.asked m q hq
        exact hm (hinj n hn m hmem (hkey.symm.trans hhashed))
      rw [map_bucketKey_countQuery] at hin
      split at hin
      · exact hforgotten.2 q hq hin
      · rcases List.mem_append.mp hin with hin | hin
        · exact hforgotten.2 q hq hin
        · exact hne (List.mem_singleton.mp hin)
  · intro m q
    simp only [Correlator.observe, hhash, hk, Table.find?_put]
    by_cases hm : n = m
    · rw [if_pos hm]
      intro hq
      obtain rfl := Option.some.inj hq
      exact hm ▸ ⟨hn, hkey⟩
    · rw [if_neg hm]
      exact h.asked m q

/-- **A reply.** If the query that it would be put down to is forgotten, there is nothing to count in. -/
theorem reply (h : Pruned hash names c c') (now t : Instant) (n : String) (missing : Bool) :
    Pruned hash names (c.observe now ⟨t, .reply n missing⟩) (c'.observe now ⟨t, .reply n missing⟩) := by
  cases missing with
  | false => exact h
  | true =>
    simp only [Correlator.observe]
    rcases h.lastQuery n with hsame | ⟨hnone, hgone⟩
    · rw [hsame]
      cases Table.find? n c'.lastQueries with
      | none => exact h
      | some q =>
        dsimp only
        split
        · exact h
        · have hkeys : (countMissing q.key c.buckets).map bucketKey = c.buckets.map bucketKey := by
            rw [map_bucketKey_eq, counted_countMissing, ← map_bucketKey_eq]
          exact { h with
            buckets := congrArg (countMissing q.key) h.buckets
            lastQuery := fun m => by rw [hkeys]; exact h.lastQuery m }
    · -- only the second correlator finds a query, and its bucket is gone
      rw [hnone]
      cases hq : Table.find? n c'.lastQueries with
      | none => exact h
      | some q =>
        have hgone : q.key ∉ c'.buckets.map bucketKey := h.buckets ▸ hgone q hq
        dsimp only
        rw [countMissing_of_not_mem hgone, ite_self]
        exact h

/-- What a line preserves. -/
theorem observe (h : Pruned hash names c c')
    (hinj : ∀ n ∈ names, ∀ m ∈ names, hash n = hash m → n = m) {l : Line}
    (hl : ∀ n, l.asked? = some n → n ∈ names) (now : Instant) :
    Pruned hash names (c.observe now l) (c'.observe now l) := by
  obtain ⟨t, activity⟩ := l
  cases activity with
  | query client n type => exact h.query hinj (hl n rfl) now t client type
  | reply n missing => exact h.reply now t n missing

/-- **What a flush preserves.** All buckets are given out, so that any last query may be forgotten. -/
theorem flush (h : Pruned hash names c c') (now : Instant) :
    Pruned hash names { c with buckets := [], lastQueries := c.recentQueries now }
      { c' with buckets := [] } where
  hash_eq := h.hash_eq
  hash_eq' := h.hash_eq'
  capacity := h.capacity
  buckets := rfl
  clients := h.clients
  nodup := by
    show ((c.recentQueries now).map Prod.fst).Nodup
    rw [Correlator.recentQueries]
    exact Table.nodup_keep _ h.nodup
  lastQuery := by
    intro n
    show Table.find? n (c.recentQueries now) = _ ∨ _
    rw [Correlator.recentQueries, Table.find?_keep _ _ h.nodup]
    rcases h.lastQuery n with hsame | ⟨hnone, -⟩
    · rw [← hsame]
      cases Table.find? n c.lastQueries with
      | none => exact Or.inl rfl
      | some q =>
        rw [Option.filter_some]
        split
        · exact Or.inl rfl
        · exact Or.inr ⟨rfl, fun _ _ => List.not_mem_nil⟩
    · exact Or.inr ⟨by rw [hnone]; rfl, fun _ _ => List.not_mem_nil⟩
  asked := h.asked

end Pruned

/-- No request can tell whether last queries are forgotten. -/
theorem agree_keeping {zone : Zone} {hash : String → String} {rs : List Request}
    (hinj : ∀ n ∈ askedNames zone rs, ∀ m ∈ askedNames zone rs, hash n = hash m → n = m)
    {r : Request} (hr : r ∈ rs) :
    Agree zone Correlator.flush Correlator.flushKeeping (Pruned hash (askedNames zone rs)) r r := by
  rcases r with (⟨text, now⟩ | now) | ip
  · refine agree_line (congrFun Except.map_id _).symm ?_
    intro l hl c c' h
    refine h.observe hinj (fun n hn => List.mem_filterMap.mpr ⟨_, hr, ?_⟩) now
    rw [Request.line?, Call.line?, hl]
    exact hn
  · intro c c' stats h
    refine ⟨_, _, _, _, rfl, ?_, h.flush now⟩
    rw [serve, Correlator.flushKeeping, Correlator.flush, Correlator.events, Correlator.events, h.buckets,
      h.clients]
  · intro c c' stats h
    refine ⟨_, _, _, _, rfl, ?_, h⟩
    rw [serve, Correlator.lookup, Correlator.lookup, h.clients]

/-- **Forgetting last queries cannot be seen.** For any lines, flushes and look-ups in any order and at any times:
if no two names that are asked for have one hash, then all that is given out, all that is known of any address, and
all counters are the same whether flushes forget last queries or not. -/
theorem pruning_unseen (zone : Zone) (hash : String → String) (capacity : Nat) (stats : Stats)
    (rs : List Request)
    (hinj : ∀ n ∈ askedNames zone rs, ∀ m ∈ askedNames zone rs, hash n = hash m → n = m) :
    answers Correlator.flush zone { hash, capacity } stats rs =
      answers Correlator.flushKeeping zone { hash, capacity } stats rs := by
  have h := answers_eq (fun r hr => agree_keeping hinj hr) (.start hash _ capacity) stats
  rwa [List.map_id'] at h

/-- A reply that comes in time by its own clock, after a flush that has forgotten its query. -/
theorem pruning_unseen_late_reply :
    let asked := Request.call (.line "Feb 20 14:21:33 gw dnsmasq[1]: query[A] a.b from 192.0.2.1" ⟨1771597300, 0⟩)
    let missing := Request.call (.line "Feb 20 14:22:03 gw dnsmasq[1]: reply a.b is NXDOMAIN" ⟨1771597810, 0⟩)
    let rs := [asked, .call (.flush ⟨1771597800, 0⟩), missing, asked, missing, .call (.flush ⟨1771597820, 0⟩)]
    let last : LastQuery := ⟨⟨"192.0.2.1", "A", "a.b", ⟨1771597260, 0⟩⟩, ⟨1771597293, 0⟩⟩
    Correlator.recentQueries { hash := id, capacity := 8, lastQueries := [("a.b", last)] }
        ⟨1771597800, 0⟩ = [] ∧
      askedNames .utc rs = ["a.b", "a.b"] ∧
      answers Correlator.flush .utc { hash := id, capacity := 8 } {} rs =
        answers Correlator.flushKeeping .utc { hash := id, capacity := 8 } {} rs :=
  ⟨by decide, by decide +kernel, pruning_unseen .utc id 8 {} _ fun _ _ _ _ h => h⟩

end RouterTelemetry.Dns
