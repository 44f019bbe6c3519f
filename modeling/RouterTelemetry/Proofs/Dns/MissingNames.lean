import Mathlib.Data.List.Induction
import RouterTelemetry.Proofs.Dns.BucketCounts
/-!
# Buckets count missing names

A reply that there is no such name does not say who asked. It is put down to the most recent query for the name,
and counted in that query's bucket. `missingKey?` says to which key a reply is put down, from the calls before it
alone: the last query for the name over the whole history, unless a flush since then has forgotten it, the reply
comes too late, or no query with that key came since the last flush. Main statements:

* `Linked` : what the correlator keeps of the queries and missing names of the history;
* `Linked.observe_reply` : what a reply does;
* `Linked.line` and `Linked.flush` : what each call preserves;
* `missing_names_exact` : what all calls together count as missing.
-/

namespace RouterTelemetry.Dns

open Time
open Correlator (countQuery countMissing window retention)

/-! ## To which key a reply is put down -/

/-- Whether a line is a query for a name. -/
def Line.asksFor (name : String) (l : Line) : Bool :=
  match l.activity with
  | .query _ asked _ => asked == name
  | .reply _ _ => false

/-- The name that a line says is missing. -/
def Line.missing? (l : Line) : Option String :=
  match l.activity with
  | .reply name true => some name
  | _ => none

namespace Call

/-- The query for a name that is read in a call. -/
def query? (zone : Zone) (name : String) (c : Call) : Option Line :=
  (c.line? zone).filter (Line.asksFor name)

/-- Whether a call is a flush at a time more than the retention after `seen`. -/
def forgets (seen : Instant) : Call → Bool
  | .flush now => !(now.before retention).le seen
  | .line _ _ => false

end Call

/-- Whether no flush among some calls forgets a query of the time `seen`. -/
def remembered (seen : Instant) (cs : List Call) : Bool :=
  cs.all fun c => !c.forgets seen

/-- The most recent query for a name among some calls, and the calls after it. -/
def lastAsked? (zone : Zone) (name : String) : List Call → Option (Line × List Call)
  | [] => none
  | c :: cs => (lastAsked? zone name cs).or ((c.query? zone name).map (·, cs))

/-- The queries since the last flush, by key. -/
def liveKeys (zone : Zone) (hash : String → String) (past : List Call) : List BucketKey :=
  (sinceFlush past).filterMap (Call.queryKey? zone hash)

/-- The key to which a call puts a missing name down that comes after the calls `past`. -/
def missingKey? (zone : Zone) (hash : String → String) (past : List Call) (c : Call) :
    Option BucketKey := do
  let r ← c.line? zone
  let name ← r.missing?
  let (q, later) ← lastAsked? zone name past
  let k ← q.queryKey? hash
  if r.time.since q.time ≤ window ∧ remembered q.time later ∧ k ∈ liveKeys zone hash past then some k
  else none

/-- The keys to which calls that come after `past` put missing names down. -/
def missingKeys (zone : Zone) (hash : String → String) (past : List Call) : List Call → List BucketKey
  | [] => []
  | c :: cs => (missingKey? zone hash past c).toList ++ missingKeys zone hash (past ++ [c]) cs

/-- The calls up to the last flush. -/
def upToFlush (cs : List Call) : List Call :=
  (cs.reverse.dropWhile Call.isLine).reverse

/-- The keys to which missing names were put down since the last flush. -/
def missingSinceFlush (zone : Zone) (hash : String → String) (cs : List Call) : List BucketKey :=
  missingKeys zone hash (upToFlush cs) (sinceFlush cs)

/-! ## One more call -/

section Concat

variable (zone : Zone) (hash : String → String)

theorem lastAsked?_concat (name : String) (cs : List Call) (c : Call) :
    lastAsked? zone name (cs ++ [c]) =
      match c.query? zone name with
      | some q => some (q, [])
      | none => (lastAsked? zone name cs).map fun p => (p.1, p.2 ++ [c]) := by
  induction cs with
  | nil => cases h : c.query? zone name <;> simp [lastAsked?, h]
  | cons d cs ih =>
    rw [List.cons_append, lastAsked?, ih, lastAsked?]
    cases c.query? zone name with
    | some q => rfl
    | none =>
      cases lastAsked? zone name cs with
      | some p => rfl
      | none => cases d.query? zone name <;> rfl

theorem missingKeys_concat (past cs : List Call) (c : Call) :
    missingKeys zone hash past (cs ++ [c]) =
      missingKeys zone hash past cs ++ (missingKey? zone hash (past ++ cs) c).toList := by
  induction cs generalizing past with
  | nil => rw [List.nil_append, missingKeys, missingKeys, missingKeys, List.append_nil, List.append_nil,
      List.nil_append]
  | cons d cs ih =>
    rw [List.cons_append, missingKeys, ih, missingKeys, List.append_assoc, List.append_assoc,
      List.singleton_append]

theorem upToFlush_append_sinceFlush (cs : List Call) : upToFlush cs ++ sinceFlush cs = cs := by
  rw [upToFlush, sinceFlush, ← List.reverse_append, List.takeWhile_append_dropWhile,
    List.reverse_reverse]

theorem missingSinceFlush_line (cs : List Call) (text : String) (now : Instant) :
    missingSinceFlush zone hash (cs ++ [.line text now]) =
      missingSinceFlush zone hash cs ++ (missingKey? zone hash cs (.line text now)).toList := by
  have hup : upToFlush (cs ++ [.line text now]) = upToFlush cs := by
    rw [upToFlush, upToFlush, List.reverse_concat, List.dropWhile_cons_of_pos rfl]
  rw [missingSinceFlush, sinceFlush_line, hup, missingKeys_concat, upToFlush_append_sinceFlush,
    missingSinceFlush]

theorem missingSinceFlush_flush (cs : List Call) (now : Instant) :
    missingSinceFlush zone hash (cs ++ [.flush now]) = [] := by
  rw [missingSinceFlush, sinceFlush_flush, missingKeys]

end Concat

/-! ## Missing names in buckets -/

/-- How many missing names some buckets have counted under a key. -/
def missing (k : BucketKey) : List DnsBucket → Nat
  | [] => 0
  | b :: bs => (if bucketKey b = k then b.nxdomain else 0) + missing k bs

theorem missing_of_not_mem {k : BucketKey} {bs : List DnsBucket} (h : k ∉ bs.map bucketKey) :
    missing k bs = 0 := by
  induction bs with
  | nil => rfl
  | cons b bs ih =>
    obtain ⟨hne, hrest⟩ := not_or.mp (mt List.mem_cons.mpr h)
    rw [missing, if_neg (Ne.symm hne), ih hrest]

/-- Where there is one bucket for each key, it has counted what was counted under its key. -/
theorem missing_bucketKey {bs : List DnsBucket} (h : (bs.map bucketKey).Nodup) {b : DnsBucket}
    (hb : b ∈ bs) : missing (bucketKey b) bs = b.nxdomain := by
  induction bs with
  | nil => exact absurd hb List.not_mem_nil
  | cons b₀ bs ih =>
    obtain ⟨hnew, hrest⟩ := List.nodup_cons.mp h
    rw [missing]
    rcases List.mem_cons.mp hb with rfl | hb
    · rw [if_pos rfl, missing_of_not_mem hnew, Nat.add_zero]
    · have hne : bucketKey b₀ ≠ bucketKey b := fun heq => hnew (heq ▸ List.mem_map_of_mem hb)
      rw [if_neg hne, ih hrest hb, Nat.zero_add]

/-- A query is no missing name. -/
theorem missing_countQuery (j k : BucketKey) (bs : List DnsBucket) :
    missing j (countQuery k bs) = missing j bs := by
  induction bs with
  | nil => simp [countQuery, missing]
  | cons b bs ih =>
    rw [countQuery]
    by_cases hk : bucketKey b = k
    · rw [if_pos hk, missing, missing]
      rfl
    · rw [if_neg hk, missing, missing, ih]

/-- To count under a key that has no bucket changes nothing. -/
theorem countMissing_of_not_mem {k : BucketKey} {bs : List DnsBucket} (h : k ∉ bs.map bucketKey) :
    countMissing k bs = bs := by
  rw [countMissing]
  refine (List.map_congr_left fun b hb => ?_).trans (List.map_id bs)
  have hne : bucketKey b ≠ k := fun heq => h (heq ▸ List.mem_map_of_mem hb)
  exact if_neg hne

/-- A missing name is one more under its key, if there is one bucket for it. -/
theorem missing_countMissing {k : BucketKey} {bs : List DnsBucket} (h : (bs.map bucketKey).Nodup)
    (hk : k ∈ bs.map bucketKey) (j : BucketKey) :
    missing j (countMissing k bs) = missing j bs + [k].count j := by
  induction bs with
  | nil => exact absurd hk List.not_mem_nil
  | cons b bs ih =>
    obtain ⟨hnew, hrest⟩ := List.nodup_cons.mp h
    have hcons : countMissing k (b :: bs) =
        (if bucketKey b = k then { b with nxdomain := b.nxdomain + 1 } else b) :: countMissing k bs := rfl
    rw [hcons, List.count_singleton]
    by_cases hb : bucketKey b = k
    · subst hb
      have hkey : bucketKey { b with nxdomain := b.nxdomain + 1 } = bucketKey b := rfl
      rw [if_pos rfl, countMissing_of_not_mem hnew, missing, missing, hkey]
      by_cases hj : bucketKey b = j
      · simp only [hj, if_true, beq_self_eq_true]
        omega
      · simp [hj]
    · have hin : k ∈ bs.map bucketKey := (List.mem_cons.mp hk).resolve_left (Ne.symm hb)
      rw [if_neg hb, missing, missing, ih hrest hin, List.count_singleton, Nat.add_assoc]

/-! ## Last queries -/

/-- What is kept of the most recent query for a name, given with the calls after it. -/
def kept (hash : String → String) (p : Line × List Call) : Option LastQuery :=
  if remembered p.1.time p.2 then (p.1.queryKey? hash).map (⟨·, p.1.time⟩) else none

theorem kept_line (hash : String → String) (q : Line) (later : List Call) (text : String)
    (now : Instant) : kept hash (q, later ++ [.line text now]) = kept hash (q, later) := by
  have hsame : remembered q.time (later ++ [.line text now]) = remembered q.time later := by
    simp [remembered, Call.forgets]
  rw [kept, kept, hsame]

/-- A flush forgets what is too old. -/
theorem kept_flush (hash : String → String) (q : Line) (later : List Call) (now : Instant) :
    kept hash (q, later ++ [.flush now]) =
      (kept hash (q, later)).filter fun l => (now.before retention).le l.seen := by
  have hmore : remembered q.time (later ++ [.flush now]) =
      (remembered q.time later && (now.before retention).le q.time) := by
    simp [remembered, Call.forgets]
  rw [kept, kept, hmore]
  cases remembered q.time later with
  | false => rfl
  | true => cases q.queryKey? hash <;> cases h : (now.before retention).le q.time <;> simp [Option.filter, h]

/-- The correlator is linked to the calls so far: it has kept their last queries, and has counted the missing
names since the last flush. -/
structure Linked (zone : Zone) (hash : String → String) (cs : List Call) (c : Correlator) : Prop where
  nodup : (c.lastQueries.map Prod.fst).Nodup
  /-- The last queries that are kept are those of the history. -/
  lastQuery : ∀ name, Table.find? name c.lastQueries = (lastAsked? zone name cs).bind (kept hash)
  missing_eq : ∀ k, missing k c.buckets = (missingSinceFlush zone hash cs).count k

section Calls

variable {zone : Zone} {hash : String → String} {cs : List Call} {text : String} {now : Instant}

/-- A line that is no query for a name changes nothing about the last one that was. -/
theorem bind_kept_line {name : String} (h : (Call.line text now).query? zone name = none) :
    (lastAsked? zone name (cs ++ [.line text now])).bind (kept hash) =
      (lastAsked? zone name cs).bind (kept hash) := by
  rw [lastAsked?_concat, h]
  cases lastAsked? zone name cs with
  | none => rfl
  | some p => exact kept_line hash p.1 p.2 text now

/-- A query is the last one for its name. -/
theorem bind_kept_query {t : Instant} {client asked type : String}
    (h : (Call.line text now).line? zone = some ⟨t, .query client asked type⟩) (name : String) :
    (lastAsked? zone name (cs ++ [.line text now])).bind (kept hash) =
      if asked = name then some ⟨⟨client, type, hash asked, t.truncateToMinute⟩, t⟩
      else (lastAsked? zone name cs).bind (kept hash) := by
  by_cases hname : asked = name
  · have hquery : (Call.line text now).query? zone name = some ⟨t, .query client asked type⟩ := by
      simp [Call.query?, h, Line.asksFor, hname, Option.filter]
    rw [lastAsked?_concat, hquery, if_pos hname]
    rfl
  · have hquery : (Call.line text now).query? zone name = none := by
      simp [Call.query?, h, Line.asksFor, hname, Option.filter]
    rw [bind_kept_line hquery, if_neg hname]

/-- A reply is no query. -/
theorem query?_of_reply {t : Instant} {asked : String} {missing : Bool}
    (h : (Call.line text now).line? zone = some ⟨t, .reply asked missing⟩) (name : String) :
    (Call.line text now).query? zone name = none := by
  rw [Call.query?, h]
  rfl

/-! ## Replies -/

/-- A key to which missing names are put down is one of a query since the last flush. -/
theorem mem_liveKeys_of_missingKey? {past : List Call} {c : Call} {k : BucketKey}
    (h : missingKey? zone hash past c = some k) : k ∈ liveKeys zone hash past := by
  simp only [missingKey?, Option.bind_eq_bind, Option.bind_eq_some_iff] at h
  obtain ⟨r, -, name, -, ⟨q, later⟩, -, k', -, h⟩ := h
  dsimp only at h
  split at h
  · next hcond =>
    obtain rfl := Option.some.inj h
    exact hcond.2.2
  · exact absurd h (by simp)

/-- A reply is put down to the last query that is kept for its name, if that is recent enough and its bucket is
still there. -/
theorem missingKey?_of_reply {past : List Call} {t : Instant} {name : String}
    (h : (Call.line text now).line? zone = some ⟨t, .reply name true⟩) :
    missingKey? zone hash past (.line text now) =
      ((lastAsked? zone name past).bind (kept hash)).bind fun q =>
        if t.since q.seen ≤ window ∧ q.key ∈ liveKeys zone hash past then some q.key else none := by
  rw [missingKey?, h]
  cases hlast : lastAsked? zone name past with
  | none => simp [Line.missing?, hlast]
  | some p =>
    obtain ⟨q, later⟩ := p
    cases hkey : q.queryKey? hash with
    | none => cases hr : remembered q.time later <;> simp [Line.missing?, hlast, kept, hkey, hr]
    | some k => cases hr : remembered q.time later <;> simp [Line.missing?, hlast, kept, hkey, hr]

/-- A reply that says nothing is missing is not put down to any key. -/
theorem missingKey?_of_answer {past : List Call} {t : Instant} {name : String}
    (h : (Call.line text now).line? zone = some ⟨t, .reply name false⟩) :
    missingKey? zone hash past (.line text now) = none := by
  rw [missingKey?, h]
  rfl

/-- The correlator after a missing name was put down to a key, or to none. -/
def putDown (c : Correlator) (key? : Option BucketKey) : Correlator :=
  key?.elim c fun k => { c with buckets := countMissing k c.buckets }

namespace Linked

variable {c : Correlator}

/-- **What a reply does.** It counts one missing name under the key to which it is put down, and changes nothing
else; a reply that is put down to no key changes nothing. -/
theorem observe_reply (h : Linked zone hash cs c)
    (hlive : ∀ k, k ∈ c.buckets.map bucketKey ↔ k ∈ liveKeys zone hash cs) {t : Instant}
    {name : String} {missing : Bool}
    (hline : (Call.line text now).line? zone = some ⟨t, .reply name missing⟩) :
    c.observe now ⟨t, .reply name missing⟩ = putDown c (missingKey? zone hash cs (.line text now)) := by
  cases missing with
  | false =>
    rw [missingKey?_of_answer hline]
    rfl
  | true =>
    rw [missingKey?_of_reply hline, ← h.lastQuery, Correlator.observe]
    dsimp only
    cases Table.find? name c.lastQueries with
    | none => rfl
    | some q =>
      dsimp only [Option.bind_some]
      by_cases hlate : window < t.since q.seen
      · rw [if_pos hlate, if_neg fun hcond => by omega]
        rfl
      · rw [if_neg hlate]
        by_cases hin : q.key ∈ liveKeys zone hash cs
        · rw [if_pos ⟨by omega, hin⟩]
          rfl
        · -- the bucket has been given out, so there is nothing to count in
          rw [if_neg fun hcond => hin hcond.2,
            countMissing_of_not_mem (mt (hlive q.key).mp hin)]
          rfl

/-! ## What each call preserves -/

/-- A query becomes the last one for its name. -/
theorem query (h : Linked zone hash cs c) (hhash : c.hash = hash) {t : Instant}
    {client name type : String}
    (hline : (Call.line text now).line? zone = some ⟨t, .query client name type⟩) :
    Linked zone hash (cs ++ [.line text now]) (c.observe now ⟨t, .query client name type⟩) where
  nodup := Table.nodup_put _ _ h.nodup
  lastQuery := by
    intro j
    rw [bind_kept_query hline, ← h.lastQuery, ← hhash]
    exact Table.find?_put ..
  missing_eq := by
    intro k
    have hnone : missingKey? zone hash cs (.line text now) = none := by
      rw [missingKey?, hline]
      rfl
    rw [missingSinceFlush_line, hnone, Option.toList_none, List.append_nil, ← h.missing_eq]
    exact missing_countQuery ..

/-- A reply counts a missing name where it is put down. -/
theorem reply (h : Linked zone hash cs c) (hnodup : (c.buckets.map bucketKey).Nodup)
    (hlive : ∀ k, k ∈ c.buckets.map bucketKey ↔ k ∈ liveKeys zone hash cs) {t : Instant}
    {name : String} {missing : Bool}
    (hline : (Call.line text now).line? zone = some ⟨t, .reply name missing⟩) :
    Linked zone hash (cs ++ [.line text now]) (c.observe now ⟨t, .reply name missing⟩) := by
  rw [h.observe_reply hlive hline]
  have hlast (j : String) : (lastAsked? zone j cs).bind (kept hash) =
      (lastAsked? zone j (cs ++ [.line text now])).bind (kept hash) :=
    (bind_kept_line (query?_of_reply hline j)).symm
  cases hkey : missingKey? zone hash cs (.line text now) with
  | none =>
    refine ⟨h.nodup, fun j => (h.lastQuery j).trans (hlast j), fun k => ?_⟩
    rw [missingSinceFlush_line, hkey, Option.toList_none, List.append_nil, ← h.missing_eq]
    rfl
  | some key =>
    refine ⟨h.nodup, fun j => (h.lastQuery j).trans (hlast j), fun k => ?_⟩
    have hin : key ∈ c.buckets.map bucketKey := (hlive key).mpr (mem_liveKeys_of_missingKey? hkey)
    rw [missingSinceFlush_line, hkey, Option.toList_some, List.count_append, ← h.missing_eq]
    exact missing_countMissing hnodup hin k

/-- A line that cannot be read is nothing to queries and replies. -/
theorem unread (h : Linked zone hash cs c) (hline : (Call.line text now).line? zone = none) :
    Linked zone hash (cs ++ [.line text now]) c where
  nodup := h.nodup
  lastQuery := by
    intro j
    have hnone : (Call.line text now).query? zone j = none := by
      rw [Call.query?, hline]
      rfl
    rw [bind_kept_line hnone, h.lastQuery]
  missing_eq := by
    intro k
    have hnone : missingKey? zone hash cs (.line text now) = none := by
      rw [missingKey?, hline]
      rfl
    rw [missingSinceFlush_line, hnone, Option.toList_none, List.append_nil, h.missing_eq]

/-- A flush forgets the last queries that are too old, and starts to count anew. -/
theorem flush (h : Linked zone hash cs c) (now : Instant) :
    Linked zone hash (cs ++ [.flush now])
      { c with buckets := [], lastQueries := c.recentQueries now } where
  nodup := by
    show ((c.recentQueries now).map Prod.fst).Nodup
    rw [Correlator.recentQueries]
    exact Table.nodup_keep _ h.nodup
  lastQuery := by
    intro j
    rw [Correlator.recentQueries, Table.find?_keep _ _ h.nodup, h.lastQuery, lastAsked?_concat]
    cases lastAsked? zone j cs with
    | none => rfl
    | some p => exact (kept_flush hash p.1 p.2 now).symm
  missing_eq := by
    intro k
    rw [missingSinceFlush_flush]
    rfl

/-- A line is a query, a reply, or cannot be read. -/
theorem line {stats : Stats} {s : Session} (h : Linked zone hash cs s.correlator)
    (htally : Tallied zone hash stats cs s) (text : String) (now : Instant) :
    Linked zone hash (cs ++ [.line text now]) (s.call zone (.line text now)).correlator := by
  cases hline : (Call.line text now).line? zone with
  | none =>
    rw [Session.call_line_of_none hline]
    exact h.unread hline
  | some l =>
    obtain ⟨t, activity⟩ := l
    rw [Session.call_line_of_some hline]
    cases activity with
    | query client name type => exact h.query htally.hash_eq hline
    | reply name missing => exact h.reply htally.buckets.nodup htally.buckets.mem_iff hline

/-- **What all calls together preserve.** -/
theorem calls (zone : Zone) (hash : String → String) (capacity : Nat) (stats : Stats)
    (cs : List Call) :
    Linked zone hash cs ((Session.start hash capacity stats).calls zone cs).correlator := by
  induction cs using List.reverseRecOn with
  | nil => exact ⟨List.nodup_nil, fun _ => rfl, fun _ => rfl⟩
  | append_singleton cs c ih =>
    rw [Session.calls_concat]
    cases c with
    | line text now =>
      exact ih.line ((Tallied.start zone hash capacity stats).calls cs) text now
    | flush now => exact ih.flush now

end Linked

end Calls

/-! ## Whole sessions -/

/-- What a session says about missing names after some calls. -/
structure MissingExact (zone : Zone) (hash : String → String) (cs : List Call) (s : Session) : Prop where
  /-- Each bucket that a flush would give out says how many missing names were put down to its key since the
  last flush. -/
  flushed : ∀ now, ∀ b ∈ bucketsOf (s.correlator.flush s.stats now).1,
    b.nxdomain = (missingSinceFlush zone hash cs).count (bucketKey b)
  /-- A reply would count one missing name in the bucket of the key to which it is put down, and one that is put
  down to no key would change nothing. -/
  replied : ∀ text now t name missing,
    (Call.line text now).line? zone = some ⟨t, .reply name missing⟩ →
      (s.call zone (.line text now)).correlator =
        putDown s.correlator (missingKey? zone hash cs (.line text now))

/-- **Missing names are put down exactly.** For any lines and flushes in any order, read at any times, each
bucket says how many replies since the last flush were put down to its key, by what the calls before each
reply say alone. -/
theorem missing_names_exact (zone : Zone) (hash : String → String) (capacity : Nat) (stats : Stats)
    (cs : List Call) :
    MissingExact zone hash cs ((Session.start hash capacity stats).calls zone cs) := by
  have htally := (Tallied.start zone hash capacity stats).calls cs
  have hlinked := Linked.calls zone hash capacity stats cs
  refine ⟨fun now b hb => ?_, fun text now t name missing hline => ?_⟩
  · rw [Correlator.flush, bucketsOf_events] at hb
    rw [← missing_bucketKey htally.buckets.nodup hb, hlinked.missing_eq]
  · rw [Session.call_line_of_some hline]
    exact hlinked.observe_reply htally.buckets.mem_iff hline

end RouterTelemetry.Dns
