import Mathlib.Data.List.Induction
import RouterTelemetry.Proofs.Dns.Calls
import RouterTelemetry.Proofs.Dns.FlushedEvents
/-!
# Buckets count queries

The buckets that a flush gives out are the queries since the flush before it, counted by key: one bucket for
each key, with the number of queries that have it. Main statements:

* `Counts.countQuery` : one more query;
* `Tallied.line` and `Tallied.flush` : what each call preserves;
* `exact_calls` : what all calls together count.
-/

namespace RouterTelemetry.Dns

open Time
open Correlator (countQuery countMissing)

/-! ## Buckets and keys -/

/-- There is one bucket for each of the keys, and it says how often the key is among them. -/
structure Counts (keys : List BucketKey) (bs : List DnsBucket) : Prop where
  nodup : (bs.map bucketKey).Nodup
  mem_iff : ∀ k, k ∈ bs.map bucketKey ↔ k ∈ keys
  count_eq : ∀ b ∈ bs, b.count = keys.count (bucketKey b)

theorem Counts.nil : Counts [] [] :=
  ⟨List.nodup_nil, fun _ => Iff.rfl, fun _ hb => absurd hb List.not_mem_nil⟩

/-- A query adds its key behind the others, unless it is there. -/
theorem map_bucketKey_countQuery (k : BucketKey) (bs : List DnsBucket) :
    (countQuery k bs).map bucketKey =
      if k ∈ bs.map bucketKey then bs.map bucketKey else bs.map bucketKey ++ [k] := by
  induction bs with
  | nil => rfl
  | cons b bs ih =>
    rw [countQuery]
    by_cases hk : bucketKey b = k
    · rw [if_pos hk, List.map_cons, List.map_cons, hk, if_pos (List.mem_cons_self ..)]
      exact congrArg (· :: _) hk
    · have hmem : k ∈ (b :: bs).map bucketKey ↔ k ∈ bs.map bucketKey := by
        rw [List.map_cons, List.mem_cons]
        exact ⟨fun h => h.resolve_left (Ne.symm hk), Or.inr⟩
      rw [if_neg hk, List.map_cons, ih]
      by_cases hin : k ∈ bs.map bucketKey
      · rw [if_pos hin, if_pos (hmem.mpr hin), List.map_cons]
      · rw [if_neg hin, if_neg (mt hmem.mp hin), List.map_cons, List.cons_append]

/-- A query changes no bucket but the one of its key. -/
theorem mem_countQuery {k : BucketKey} {bs : List DnsBucket} (hnodup : (bs.map bucketKey).Nodup)
    {b : DnsBucket} (hb : b ∈ countQuery k bs) :
    (b ∈ bs ∧ bucketKey b ≠ k) ∨
      (bucketKey b = k ∧ ((∃ b₀ ∈ bs, bucketKey b₀ = k ∧ b.count = b₀.count + 1) ∨
        (k ∉ bs.map bucketKey ∧ b.count = 1))) := by
  induction bs with
  | nil =>
    obtain rfl := List.mem_singleton.mp hb
    exact Or.inr ⟨rfl, Or.inr ⟨List.not_mem_nil, rfl⟩⟩
  | cons b₀ bs ih =>
    rw [List.map_cons, List.nodup_cons] at hnodup
    rw [countQuery] at hb
    by_cases hk : bucketKey b₀ = k
    · rw [if_pos hk] at hb
      rcases List.mem_cons.mp hb with rfl | hb
      · exact Or.inr ⟨hk, Or.inl ⟨b₀, List.mem_cons_self .., hk, rfl⟩⟩
      · refine Or.inl ⟨List.mem_cons_of_mem _ hb, fun heq => hnodup.1 ?_⟩
        rw [hk, ← heq]
        exact List.mem_map_of_mem hb
    · rw [if_neg hk] at hb
      rcases List.mem_cons.mp hb with rfl | hb
      · exact Or.inl ⟨List.mem_cons_self .., hk⟩
      · rcases ih hnodup.2 hb with ⟨hold, hne⟩ | ⟨hkey, ⟨b₁, hb₁, h⟩ | ⟨hnew, hone⟩⟩
        · exact Or.inl ⟨List.mem_cons_of_mem _ hold, hne⟩
        · exact Or.inr ⟨hkey, Or.inl ⟨b₁, List.mem_cons_of_mem _ hb₁, h⟩⟩
        · refine Or.inr ⟨hkey, Or.inr ⟨?_, hone⟩⟩
          rw [List.map_cons, List.mem_cons]
          rintro (heq | hin)
          · exact hk heq.symm
          · exact hnew hin

/-- **One more query.** -/
theorem Counts.countQuery {keys : List BucketKey} {bs : List DnsBucket} (h : Counts keys bs)
    (k : BucketKey) : Counts (keys ++ [k]) (countQuery k bs) where
  nodup := by
    rw [map_bucketKey_countQuery]
    by_cases hk : k ∈ bs.map bucketKey
    · rw [if_pos hk]
      exact h.nodup
    · rw [if_neg hk, List.nodup_append]
      refine ⟨h.nodup, List.pairwise_singleton _ k, fun a ha b hb heq => hk ?_⟩
      rw [← List.mem_singleton.mp hb, ← heq]
      exact ha
  mem_iff := by
    intro j
    rw [map_bucketKey_countQuery, List.mem_append, List.mem_singleton, ← h.mem_iff]
    by_cases hk : k ∈ bs.map bucketKey
    · rw [if_pos hk]
      exact ⟨Or.inl, fun hj => hj.elim id fun heq => heq ▸ hk⟩
    · rw [if_neg hk, List.mem_append, List.mem_singleton]
  count_eq := by
    intro b hb
    rw [List.count_append]
    -- another bucket, or the one of the key, which may have been there or may be new
    rcases mem_countQuery h.nodup hb with ⟨hold, hne⟩ | ⟨rfl, ⟨b₀, hb₀, hkey, hcount⟩ | ⟨hnew, hone⟩⟩
    · rw [List.count_singleton, if_neg (by simpa using Ne.symm hne), h.count_eq b hold]
      rfl
    · rw [hcount, h.count_eq b₀ hb₀, hkey, List.count_singleton_self]
    · rw [hone, List.count_singleton_self, List.count_eq_zero.mpr (mt (h.mem_iff _).mpr hnew)]

/-- How many queries some buckets have counted. -/
def queries : List DnsBucket → Nat
  | [] => 0
  | b :: bs => b.count + queries bs

theorem queries_append (as bs : List DnsBucket) : queries (as ++ bs) = queries as + queries bs := by
  induction as with
  | nil => rw [List.nil_append, queries, Nat.zero_add]
  | cons a as ih => rw [List.cons_append, queries, queries, ih, Nat.add_assoc]

/-- A query is one more. -/
theorem queries_countQuery (k : BucketKey) (bs : List DnsBucket) :
    queries (countQuery k bs) = queries bs + 1 := by
  induction bs with
  | nil => rfl
  | cons b bs ih =>
    rw [countQuery]
    by_cases hk : bucketKey b = k
    · rw [if_pos hk, queries, queries]
      exact Nat.add_right_comm ..
    · rw [if_neg hk, queries, queries, ih, Nat.add_assoc]

/-- How often each key was counted. -/
def counted (bs : List DnsBucket) : List (BucketKey × Nat) :=
  bs.map fun b => (bucketKey b, b.count)

/-- A missing name changes no count. -/
theorem counted_countMissing (k : BucketKey) (bs : List DnsBucket) :
    counted (countMissing k bs) = counted bs := by
  rw [counted, counted, countMissing, List.map_map]
  refine List.map_congr_left fun b _ => ?_
  rw [Function.comp_apply]
  split <;> rfl

theorem map_bucketKey_eq (bs : List DnsBucket) : bs.map bucketKey = (counted bs).map Prod.fst := by
  rw [counted, List.map_map]
  rfl

theorem queries_of_counted_eq {bs bs' : List DnsBucket} (h : counted bs' = counted bs) :
    queries bs' = queries bs := by
  induction bs generalizing bs' with
  | nil =>
    rw [List.map_eq_nil_iff.mp h]
  | cons b bs ih =>
    obtain ⟨b', rest, rfl, hhead, htail⟩ := List.map_eq_cons_iff.mp h
    rw [queries, queries, ih htail, (Prod.mk.inj hhead).2]

/-- Nothing but keys and counts matters. -/
theorem Counts.of_counted_eq {keys : List BucketKey} {bs bs' : List DnsBucket} (h : Counts keys bs)
    (heq : counted bs' = counted bs) : Counts keys bs' where
  nodup := by
    rw [map_bucketKey_eq, heq, ← map_bucketKey_eq]
    exact h.nodup
  mem_iff := by
    intro k
    rw [map_bucketKey_eq, heq, ← map_bucketKey_eq]
    exact h.mem_iff k
  count_eq := by
    intro b hb
    have hmem : (bucketKey b, b.count) ∈ counted bs := heq ▸ List.mem_map_of_mem hb
    obtain ⟨b₀, hb₀, hsame⟩ := List.mem_map.mp hmem
    obtain ⟨hkey, hcount⟩ := Prod.mk.inj hsame
    rw [← hcount, ← hkey]
    exact h.count_eq b₀ hb₀

/-! ## Lines -/

/-- A query is counted under its key. -/
theorem buckets_observe_of_some {c : Correlator} {l : Line} {k : BucketKey}
    (h : l.queryKey? c.hash = some k) (now : Instant) :
    (c.observe now l).buckets = countQuery k c.buckets := by
  unfold Line.queryKey? at h
  unfold Correlator.observe
  split at h
  · next client name type ha =>
    obtain rfl := Option.some.inj h
    rw [ha]
  · exact absurd h (by simp)

/-- A reply changes no count. -/
theorem counted_observe_of_none {c : Correlator} {l : Line} (h : l.queryKey? c.hash = none)
    (now : Instant) : counted (c.observe now l).buckets = counted c.buckets := by
  unfold Line.queryKey? at h
  unfold Correlator.observe
  split at h
  · exact absurd h (by simp)
  · next name missing ha =>
    rw [ha]
    cases missing with
    | false => rfl
    | true =>
      dsimp only
      split
      · rfl
      · split
        · rfl
        · exact counted_countMissing _ _

theorem hash_observe (c : Correlator) (now : Instant) (l : Line) :
    (c.observe now l).hash = c.hash := by
  unfold Correlator.observe
  split
  · rfl
  · split
    · rfl
    · split <;> rfl
  · rfl

/-! ## Counters -/

/-- A flush counts the buckets that it gives out. -/
theorem get_foldl_incr (bs : List DnsBucket) (stats : Stats) (c : Counter) :
    (bs.foldl (fun s _ => s.incr .dnsBucketsEmitted) stats).get c =
      stats.get c + if c = .dnsBucketsEmitted then bs.length else 0 := by
  induction bs generalizing stats with
  | nil => simp
  | cons b bs ih =>
    rw [List.foldl_cons, ih, Stats.get_incr, List.length_cons]
    by_cases hc : c = .dnsBucketsEmitted
    · subst hc
      simp only [if_true]
      omega
    · simp [hc]

/-! ## Calls -/

section Calls

variable {zone : Zone} {s : Session} {text : String} {now : Instant}

/-- A line that is read as a query is counted under its key. -/
theorem buckets_line_of_some {k : BucketKey}
    (h : (Call.line text now).queryKey? zone s.correlator.hash = some k) :
    (s.call zone (.line text now)).correlator.buckets = countQuery k s.correlator.buckets := by
  obtain ⟨l, hline, hkey⟩ := Option.bind_eq_some_iff.mp h
  rw [Session.call_line_of_some hline]
  exact buckets_observe_of_some hkey now

/-- A line that is not read as a query changes no count. -/
theorem counted_line_of_none (h : (Call.line text now).queryKey? zone s.correlator.hash = none) :
    counted (s.call zone (.line text now)).correlator.buckets = counted s.correlator.buckets := by
  cases hline : (Call.line text now).line? zone with
  | none => rw [Session.call_line_of_none hline]
  | some l =>
    rw [Call.queryKey?, hline] at h
    rw [Session.call_line_of_some hline]
    exact counted_observe_of_none h now

theorem hash_call (zone : Zone) (s : Session) (c : Call) :
    (s.call zone c).correlator.hash = s.correlator.hash := by
  cases c with
  | flush now => rfl
  | line text now =>
    cases hline : (Call.line text now).line? zone with
    | none => rw [Session.call_line_of_none hline]
    | some l =>
      rw [Session.call_line_of_some hline]
      exact hash_observe _ _ _

/-- A line gives out no events. -/
theorem events_line (zone : Zone) (s : Session) (text : String) (now : Instant) :
    (s.call zone (.line text now)).events = s.events := rfl

/-- A line is counted as a line, and as a failure if it cannot be read. -/
theorem get_stats_line (zone : Zone) (s : Session) (text : String) (now : Instant) (c : Counter) :
    (s.call zone (.line text now)).stats.get c =
      s.stats.get c + (if c = .dnsLines then 1 else 0)
        + (if c = .dnsParseErrors ∧ (Call.line text now).isUnreadable zone = true then 1 else 0) := by
  cases hline : (Call.line text now).line? zone with
  | none =>
    rw [Session.call_line_of_none hline]
    cases c <;> simp [Call.isUnreadable, Call.isLine, hline]
  | some l =>
    rw [Session.call_line_of_some hline]
    cases c <;> simp [Call.isUnreadable, Call.isLine, hline]

end Calls

/-! ## Whole sessions -/

/-- The session has counted the queries and lines of some calls. -/
structure Tallied (zone : Zone) (hash : String → String) (stats : Stats) (cs : List Call)
    (s : Session) : Prop where
  hash_eq : s.correlator.hash = hash
  /-- The buckets are the queries since the last flush, counted by key. -/
  buckets : Counts ((sinceFlush cs).filterMap (Call.queryKey? zone hash)) s.correlator.buckets
  /-- Every query is counted in a bucket that was given out, or in one that is still there. -/
  total : queries (bucketsOf s.events) + queries s.correlator.buckets =
    (cs.filterMap (Call.queryKey? zone hash)).length
  lines : s.stats.get .dnsLines = stats.get .dnsLines + cs.countP Call.isLine
  unreadable : s.stats.get .dnsParseErrors =
    stats.get .dnsParseErrors + cs.countP (Call.isUnreadable zone)
  emitted : s.stats.get .dnsBucketsEmitted =
    stats.get .dnsBucketsEmitted + (bucketsOf s.events).length

namespace Tallied

variable {zone : Zone} {hash : String → String} {stats : Stats} {cs : List Call} {s : Session}

theorem start (zone : Zone) (hash : String → String) (capacity : Nat) (stats : Stats) :
    Tallied zone hash stats [] (Session.start hash capacity stats) where
  hash_eq := rfl
  buckets := .nil
  total := rfl
  lines := rfl
  unreadable := rfl
  emitted := rfl

theorem line (h : Tallied zone hash stats cs s) (text : String) (now : Instant) :
    Tallied zone hash stats (cs ++ [.line text now]) (s.call zone (.line text now)) where
  hash_eq := (hash_call zone s _).trans h.hash_eq
  buckets := by
    rw [sinceFlush_line, List.filterMap_append]
    cases hk : (Call.line text now).queryKey? zone hash with
    | some k =>
      rw [buckets_line_of_some (h.hash_eq ▸ hk), List.filterMap_cons_some hk, List.filterMap_nil]
      exact h.buckets.countQuery k
    | none =>
      rw [List.filterMap_cons_none hk, List.filterMap_nil, List.append_nil]
      exact h.buckets.of_counted_eq (counted_line_of_none (h.hash_eq ▸ hk))
  total := by
    have htotal := h.total
    rw [events_line, List.filterMap_append, List.length_append]
    cases hk : (Call.line text now).queryKey? zone hash with
    | some k =>
      rw [buckets_line_of_some (h.hash_eq ▸ hk), queries_countQuery, List.filterMap_cons_some hk,
        List.filterMap_nil, List.length_singleton]
      omega
    | none =>
      rw [queries_of_counted_eq (counted_line_of_none (h.hash_eq ▸ hk)),
        List.filterMap_cons_none hk, htotal]
      rfl
  lines := by
    rw [get_stats_line, h.lines, List.countP_append, List.countP_singleton]
    simp [Call.isLine, Nat.add_assoc]
  unreadable := by
    rw [get_stats_line, h.unreadable, List.countP_append, List.countP_singleton]
    simp [Nat.add_assoc]
  emitted := by
    rw [get_stats_line, h.emitted, events_line]
    simp

theorem flush (h : Tallied zone hash stats cs s) (now : Instant) :
    Tallied zone hash stats (cs ++ [.flush now]) (s.call zone (.flush now)) := by
  have hevents : bucketsOf (s.call zone (.flush now)).events
      = bucketsOf s.events ++ s.correlator.buckets := by
    rw [show (s.call zone (.flush now)).events = s.events ++ s.correlator.events now from rfl,
      bucketsOf_append, bucketsOf_events]
  have hstats : (s.call zone (.flush now)).stats =
      s.correlator.buckets.foldl (fun s _ => s.incr .dnsBucketsEmitted) s.stats := rfl
  refine ⟨h.hash_eq, ?_, ?_, ?_, ?_, ?_⟩
  · rw [sinceFlush_flush]
    exact .nil
  · -- the buckets that are given out are the ones that were there
    have htotal := h.total
    rw [hevents, queries_append, htotal, List.filterMap_append, List.length_append]
    rfl
  · rw [hstats, get_foldl_incr, h.lines, List.countP_append]
    rfl
  · rw [hstats, get_foldl_incr, h.unreadable, List.countP_append]
    rfl
  · rw [hstats, get_foldl_incr, h.emitted, hevents, List.length_append, if_pos rfl, Nat.add_assoc]

/-- **What all calls together count.** -/
theorem calls (h : Tallied zone hash stats [] s) (cs : List Call) :
    Tallied zone hash stats cs (s.calls zone cs) := by
  induction cs using List.reverseRecOn with
  | nil => exact h
  | append_singleton cs c ih =>
    rw [Session.calls_concat]
    cases c with
    | line text now => exact ih.line text now
    | flush now => exact ih.flush now

end Tallied

/-- What a session says about queries after some calls. -/
structure Exact (zone : Zone) (hash : String → String) (stats : Stats) (cs : List Call)
    (s : Session) : Prop extends Tallied zone hash stats cs s where
  /-- A flush would give out one bucket for each key among the queries since the last flush, with the number
  of queries that have it, and would stamp all that it gives out with its time. -/
  flushed : ∀ now,
    Counts ((sinceFlush cs).filterMap (Call.queryKey? zone hash))
        (bucketsOf (s.correlator.flush s.stats now).1) ∧
      ∀ e ∈ (s.correlator.flush s.stats now).1, e.time = now
  /-- A line that cannot be read, or that is not a query, would change no count. -/
  silent : ∀ text now, (Call.line text now).queryKey? zone hash = none →
    counted (s.call zone (.line text now)).correlator.buckets = counted s.correlator.buckets

/-- **Buckets count queries exactly.** For any lines and flushes in any order, read at any times, and
whatever names have the same hash. -/
theorem exact_calls (zone : Zone) (hash : String → String) (capacity : Nat) (stats : Stats)
    (cs : List Call) : Exact zone hash stats cs ((Session.start hash capacity stats).calls zone cs) := by
  have htallied := (Tallied.start zone hash capacity stats).calls cs
  refine ⟨htallied, fun now => ⟨?_, time_events _ now⟩, fun text now hk => ?_⟩
  · rw [Correlator.flush, bucketsOf_events]
    exact htallied.buckets
  · rw [← htallied.hash_eq] at hk
    exact counted_line_of_none hk

end RouterTelemetry.Dns
