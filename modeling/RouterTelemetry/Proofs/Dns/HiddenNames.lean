import RouterTelemetry.Proofs.Dns.Names
import RouterTelemetry.Proofs.Dns.Requests
/-!
# Names leave only as hashes

Two correlators with different hash functions are given the same requests, but for the names in the lines: where the
one reads a name, the other one reads another name with the same hash under its own function. No caller can tell
them apart. The correlators are `Alike` throughout: they differ in the names under which the last queries are
kept, and in nothing else. Main statements:

* `Alike.observe` and `Alike.flush` : what each request preserves;
* `names_hidden` : what all requests together show.
-/

namespace RouterTelemetry.Dns

open Time
open Correlator (countMissing)

/-- The call with another name in the place of the name in its line. -/
def Call.rename (ρ : Renaming) : Call → Call
  | .line text now => .line (Line.renameText ρ text) now
  | .flush now => .flush now

/-- The request with another name in the place of the name in its line. -/
def Request.rename (ρ : Renaming) : Request → Request
  | .call c => .call (c.rename ρ)
  | .lookup ip => .lookup ip

/-- Two correlators are the same but for their hash functions and the names under which they keep the last
queries, which are other names in the second one. -/
structure Alike (h₁ h₂ : String → String) (ρ : Renaming) (c₁ c₂ : Correlator) : Prop where
  hash₁ : c₁.hash = h₁
  hash₂ : c₂.hash = h₂
  capacity : c₂.capacity = c₁.capacity
  buckets : c₂.buckets = c₁.buckets
  clients : c₂.clients = c₁.clients
  lastQueries : c₂.lastQueries = Table.mapKeys ρ c₁.lastQueries
  isName : ∀ n ∈ c₁.lastQueries.map Prod.fst, IsName n

namespace Alike

variable {h₁ h₂ : String → String} {ρ : Renaming} {c₁ c₂ : Correlator}

/-- New correlators are alike. -/
theorem start (h₁ h₂ : String → String) (ρ : Renaming) (capacity : Nat) :
    Alike h₁ h₂ ρ { hash := h₁, capacity } { hash := h₂, capacity } where
  hash₁ := rfl
  hash₂ := rfl
  capacity := rfl
  buckets := rfl
  clients := rfl
  lastQueries := rfl
  isName := fun _ hn => absurd hn List.not_mem_nil

/-- No two names that are kept, or may be looked for, become one. -/
theorem injective (h : Alike h₁ h₂ ρ c₁ c₂) {n : String} (hn : IsName n) :
    ∀ j ∈ c₁.lastQueries.map Prod.fst, ρ j = ρ n → j = n :=
  fun j hj => ρ.injective j n (h.isName j hj) hn

/-- The same last query is found under both names. -/
theorem find?_lastQueries (h : Alike h₁ h₂ ρ c₁ c₂) {n : String} (hn : IsName n) :
    Table.find? (ρ n) c₂.lastQueries = Table.find? n c₁.lastQueries := by
  rw [h.lastQueries]
  exact Table.find?_mapKeys (h.injective hn)

/-- A query is counted under one key and remembered for its client, and each correlator keeps it under its own
name. -/
theorem query (h : Alike h₁ h₂ ρ c₁ c₂) {n : String} (hn : IsName n) (hhash : h₁ n = h₂ (ρ n))
    (now t : Instant) (client type : String) :
    Alike h₁ h₂ ρ (c₁.observe now ⟨t, .query client n type⟩)
      (c₂.observe now ⟨t, .query client (ρ n) type⟩) := by
  have hsame : c₂.hash (ρ n) = c₁.hash n := by rw [h.hash₁, h.hash₂, hhash]
  obtain ⟨hbuckets, hclients⟩ := observe_query_eq hsame h.capacity h.buckets h.clients now t client type
  refine ⟨h.hash₁, h.hash₂, h.capacity, hbuckets, hclients, ?_, ?_⟩
  · show Table.put (ρ n) _ c₂.lastQueries = Table.mapKeys ρ (Table.put n _ c₁.lastQueries)
    rw [hsame, h.lastQueries]
    exact Table.put_mapKeys (h.injective hn) _
  · show ∀ m ∈ (Table.put n _ c₁.lastQueries).map Prod.fst, IsName m
    -- the one name that may be new comes from a line
    rw [Table.map_fst_put]
    split
    · exact h.isName
    · intro m hm
      rcases List.mem_append.mp hm with hm | hm
      · exact h.isName m hm
      · exact List.mem_singleton.mp hm ▸ hn

/-- A reply is put down to one query. -/
theorem reply (h : Alike h₁ h₂ ρ c₁ c₂) {n : String} (hn : IsName n) (now t : Instant) (missing : Bool) :
    Alike h₁ h₂ ρ (c₁.observe now ⟨t, .reply n missing⟩) (c₂.observe now ⟨t, .reply (ρ n) missing⟩) := by
  cases missing with
  | false => exact h
  | true =>
    simp only [Correlator.observe, h.find?_lastQueries hn]
    cases Table.find? n c₁.lastQueries with
    | none => exact h
    | some q =>
      dsimp only
      split
      · exact h
      · exact { h with buckets := congrArg (countMissing q.key) h.buckets }

/-- **What a line preserves**, if the names have one hash. -/
theorem observe (h : Alike h₁ h₂ ρ c₁ c₂) {l : Line} (hn : IsName l.name)
    (hhash : h₁ l.name = h₂ (ρ l.name)) (now : Instant) :
    Alike h₁ h₂ ρ (c₁.observe now l) (c₂.observe now (l.rename ρ)) := by
  obtain ⟨t, activity⟩ := l
  cases activity with
  | query client n type => exact h.query hn hhash now t client type
  | reply n missing => exact h.reply hn now t missing

/-- **What a flush preserves.** -/
theorem flush (h : Alike h₁ h₂ ρ c₁ c₂) (now : Instant) :
    Alike h₁ h₂ ρ { c₁ with buckets := [], lastQueries := c₁.recentQueries now }
      { c₂ with buckets := [], lastQueries := c₂.recentQueries now } where
  hash₁ := h.hash₁
  hash₂ := h.hash₂
  capacity := h.capacity
  buckets := rfl
  clients := h.clients
  lastQueries := by
    show c₂.recentQueries now = Table.mapKeys ρ (c₁.recentQueries now)
    rw [Correlator.recentQueries, Correlator.recentQueries, h.lastQueries, Table.keep_mapKeys]
  isName := fun n hn => h.isName n ((List.filter_sublist.map Prod.fst).subset hn)

/-- The same is given out by a flush. -/
theorem events_eq (h : Alike h₁ h₂ ρ c₁ c₂) (now : Instant) : c₂.events now = c₁.events now := by
  rw [Correlator.events, Correlator.events, h.buckets, h.clients]

/-- The same is known of an address. -/
theorem lookup_eq (h : Alike h₁ h₂ ρ c₁ c₂) (ip : String) : c₂.lookup ip = c₁.lookup ip := by
  rw [Correlator.lookup, Correlator.lookup, h.clients]

end Alike

/-- A request and the one with the other name cannot tell correlators apart that are alike. -/
theorem agree_rename {zone : Zone} {h₁ h₂ : String → String} {ρ : Renaming} {r : Request}
    (hhash : ∀ l, r.line? zone = some l → h₁ l.name = h₂ (ρ l.name)) :
    Agree zone Correlator.flush Correlator.flush (Alike h₁ h₂ ρ) r (r.rename ρ) := by
  rcases r with (⟨text, now⟩ | now) | ip
  · refine agree_line (Line.parse_renameText ρ zone text now) fun l hl c c' h => ?_
    have hread : (Request.call (.line text now)).line? zone = some l := by
      rw [Request.line?, Call.line?, hl]
      rfl
    exact h.observe (Line.toList_renameText hl ρ).1 (hhash l hread) now
  · intro c c' stats h
    refine ⟨_, _, _, _, rfl, ?_, h.flush now⟩
    rw [Request.rename, Call.rename, serve, Correlator.flush, h.events_eq, h.buckets]
  · intro c c' stats h
    refine ⟨_, _, _, _, rfl, ?_, h⟩
    rw [Request.rename, serve, h.lookup_eq]

/-- **Names leave only as hashes.** For any lines, flushes and look-ups in any order, and whatever lines cannot be
read: if each name that is read has the hash that its other name has under another hash function, then all that is
given out, all that is known of any address, and all counters are the same. -/
theorem names_hidden (zone : Zone) (h₁ h₂ : String → String) (ρ : Renaming) (capacity : Nat)
    (stats : Stats) (rs : List Request)
    (hhash : ∀ r ∈ rs, ∀ l, r.line? zone = some l → h₁ l.name = h₂ (ρ l.name)) :
    answers Correlator.flush zone { hash := h₁, capacity } stats rs =
      answers Correlator.flush zone { hash := h₂, capacity } stats (rs.map (Request.rename ρ)) :=
  answers_eq (fun r hr => agree_rename (hhash r hr)) (.start h₁ h₂ ρ capacity) stats

/-- Names with a letter in front. -/
def prefixed : Renaming where
  toFun n := "x" ++ n
  isName := by
    intro n hn
    rw [IsName, String.toList_append]
    refine ⟨by simp, fun c hc => ?_⟩
    rcases List.mem_append.mp hc with hc | hc
    · obtain rfl := List.mem_singleton.mp hc
      decide
    · exact hn.2 c hc
  injective := fun n m _ _ h => (String.append_right_inj "x").mp h

/-- One hash function shows the names and the other one drops their first letter. -/
theorem names_hidden_prefixed :
    let asked := Request.call (.line "Feb 20 14:21:33 gw dnsmasq[1]: query[A] a.b from 192.0.2.1" ⟨1771597300, 0⟩)
    let missing := Request.call (.line "Feb 20 14:21:34 gw dnsmasq[1]: reply a.b is NXDOMAIN" ⟨1771597300, 0⟩)
    let rest := [missing, .call (.flush ⟨1771597320, 0⟩), .lookup "192.0.2.1"]
    asked.line? .utc = some ⟨⟨1771597293, 0⟩, .query "192.0.2.1" "a.b" "A"⟩ ∧
      asked.rename prefixed = Request.call
        (.line "Feb 20 14:21:33 gw dnsmasq[1]: query[A] xa.b from 192.0.2.1" ⟨1771597300, 0⟩) ∧
      answers Correlator.flush .utc { hash := id, capacity := 8 } {} (asked :: rest) =
        answers Correlator.flush .utc { hash := fun n => String.ofList n.toList.tail, capacity := 8 } {}
          ((asked :: rest).map (Request.rename prefixed)) := by
  refine ⟨by decide +kernel, congrArg (fun t => Request.call (.line t _)) (by decide +kernel), ?_⟩
  refine names_hidden _ _ _ prefixed 8 {} _ fun r _ l _ => ?_
  rw [id_eq, prefixed, String.toList_append]
  exact String.ofList_toList.symm

end RouterTelemetry.Dns
