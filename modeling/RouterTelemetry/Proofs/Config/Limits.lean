import Mathlib.Control.Monad.Basic
import RouterTelemetry.Proofs.Config.Fields
import RouterTelemetry.Stages
/-!
# Settings and the limits of the machine

The numbers of a configuration that was loaded have as many bits as their fields, and those that stand for a period or
a size are not zero. That is enough for some of what the stages are set up with, but not for all of it. Main statements:

* `load_fits` : numbers have as many bits as their fields;
* `load_ne_zero` : no number is zero that has a standard value in the place of zero;
* `setUp?_isSome_iff` : when the stages can be set up;
* `set_up_within_limits` : which of this a configuration that was loaded can go against;
* `loaded_beyond_limits` : one that goes against all of it.
-/

namespace RouterTelemetry.Config

open Text
open Time (Ticker nanosPerSecond)

/-! ## Numbers of a configuration -/

/-- Numbers have as many bits at most as there are for them. -/
def Kind.Fits : (k : Kind) → k.Carrier → Prop
  | natural bits => fun n : Nat => n < Nat.pow 2 bits
  | naturals bits => fun ns : List Nat => ∀ n ∈ ns, n < Nat.pow 2 bits
  | _ => fun _ => True

instance : (k : Kind) → (x : k.Carrier) → Decidable (k.Fits x)
  | .natural bits, n => Nat.decLt n (Nat.pow 2 bits)
  | .naturals bits, ns => List.decidableBAll (fun n => n < Nat.pow 2 bits) ns
  | .text, _ => instDecidableTrue
  | .truth, _ => instDecidableTrue
  | .level, _ => instDecidableTrue

theorem lt_of_asNatural? {bits : Nat} {v : Value} {n : Nat} (h : asNatural? bits v = some n) : n < Nat.pow 2 bits := by
  cases v with
  | integer z =>
    cases z with
    | ofNat m =>
      rw [asNatural?] at h
      split at h
      · next hm => exact Option.some.inj h ▸ hm
      · exact absurd h (by simp)
    | negSucc m => exact absurd h (by simp [asNatural?])
  | _ => exact absurd h (by simp [asNatural?])

theorem lt_of_mapM_asNatural? {bits : Nat} {vs : List Value} {ns : List Nat}
    (h : vs.mapM (asNatural? bits) = some ns) : ∀ n ∈ ns, n < Nat.pow 2 bits := by
  induction vs generalizing ns with
  | nil =>
    obtain rfl := Option.some.inj h
    exact fun n hn => absurd hn List.not_mem_nil
  | cons v rest ih =>
    rw [List.mapM_cons] at h
    obtain ⟨m, hm, h⟩ := Option.bind_eq_some_iff.mp h
    obtain ⟨ms, hms, h⟩ := Option.bind_eq_some_iff.mp h
    obtain rfl := Option.some.inj h
    exact List.forall_mem_cons.mpr ⟨lt_of_asNatural? hm, ih hms⟩

theorem Kind.fits_of_read? {k : Kind} {v : Value} {x : k.Carrier} (h : k.read? v = some x) : k.Fits x := by
  cases k with
  | natural bits => exact lt_of_asNatural? h
  | naturals bits =>
    cases v with
    | list items => exact lt_of_mapM_asNatural? h
    | _ => exact absurd h.symm (Option.some_ne_none x)
  | _ => trivial

theorem orNumber_lt {n d b : Nat} (hn : n < b) (hd : d < b) : orNumber n d < b := by
  rw [orNumber]
  split
  · exact hd
  · exact hn

theorem orNumber_ne_zero (n : Nat) {d : Nat} (hd : d ≠ 0) : orNumber n d ≠ 0 := by
  rw [orNumber]
  split
  · exact hd
  · assumption

theorem Kind.fits_orStandard {k : Kind} {x d : k.Carrier} (hx : k.Fits x) (hd : k.Fits d) :
    k.Fits (k.orStandard x d) := by
  cases k with
  | natural bits => exact orNumber_lt hx hd
  | naturals bits => exact hx
  | _ => trivial

namespace Field

theorem fits_standard (f : Field) : f.kind.Fits f.standard := by
  cases f <;> decide

theorem fits_of_setting? {f : Field} {es : List (String × Value)} {x : f.kind.Carrier}
    (h : f.setting? es = some x) : f.kind.Fits x := by
  by_cases hf : f = collectorUrl
  · subst hf
    trivial
  · rw [setting?_of_ne hf, field] at h
    cases hv : Table.find? f.name es with
    | none =>
      rw [hv] at h
      exact Option.some.inj h ▸ f.fits_standard
    | some v =>
      rw [hv] at h
      exact Kind.fits_of_read? h

theorem fits_filled {f : Field} {x : f.kind.Carrier} (h : f.kind.Fits x) : f.kind.Fits (f.filled x) := by
  rw [filled]
  split
  · exact Kind.fits_orStandard h f.fits_standard
  · exact h

end Field

/-- Numbers of a configuration that was loaded have as many bits as their fields. -/
theorem load_fits {path : String} {file : Option Bytes} {vars : List (String × String)} {c : Config}
    {w : Option String} (h : load path file vars = .ok (c, w)) (f : Field) : f.kind.Fits (f.get c) := by
  obtain ⟨bytes, es, c₀, -, -, hentries, rfl, -⟩ := load_eq_ok_iff.mp h
  rw [Field.get_withDefaults]
  exact Field.fits_filled (Field.fits_of_setting? ((ofEntries?_eq_some_iff.mp hentries).1 f))

/-- A number of a configuration that was loaded is not zero if a standard value takes the place of zero. -/
theorem load_ne_zero {path : String} {file : Option Bytes} {vars : List (String × String)} {c : Config}
    {w : Option String} (h : load path file vars = .ok (c, w)) :
    c.batchMaxEvents ≠ 0 ∧ c.batchMaxWaitMs ≠ 0 ∧ c.queueDepth ≠ 0 ∧ c.spoolMaxBytes ≠ 0 ∧ c.qnameHashCap ≠ 0 ∧
      c.httpTimeoutSecs ≠ 0 ∧ c.spoolReplayIntervalSecs ≠ 0 ∧ c.heartbeatIntervalSecs ≠ 0 := by
  obtain ⟨bytes, es, c₀, -, -, -, rfl, -⟩ := load_eq_ok_iff.mp h
  exact ⟨orNumber_ne_zero _ (by decide), orNumber_ne_zero _ (by decide), orNumber_ne_zero _ (by decide),
    orNumber_ne_zero _ (by decide), orNumber_ne_zero _ (by decide), orNumber_ne_zero _ (by decide),
    orNumber_ne_zero _ (by decide), orNumber_ne_zero _ (by decide)⟩

/-! ## Setting up -/

theorem isSome_start?_iff {now period : Nat} :
    (Ticker.start? now period).isSome ↔ period ≠ 0 ∧ (now + period) / nanosPerSecond ≤ lastSecond := by
  rw [Ticker.start?, Option.isSome_ite', not_or, Nat.not_lt]

theorem isSome_open?_iff {α : Type} {capacity : Nat} :
    (Mailbox.open? capacity : Option (Mailbox α)).isSome ↔ capacity ≤ Mailbox.mostItems := by
  have hone : 1 ≤ Mailbox.mostItems := by decide
  rw [Mailbox.open?, Option.isSome_ite', Nat.not_lt, Nat.max_le]
  exact and_iff_left hone

theorem isSome_allocate?_iff {capacity : Nat} :
    (Ring.allocate? capacity).isSome ↔ capacity * textBytes ≤ mostBytes := by
  rw [Ring.allocate?, Option.isSome_ite', Nat.not_lt]

/-- Stages can be set up if each of their tickers, mailboxes and histories can. -/
theorem isSome_setUp?_iff {c : Config} {now : Nat} :
    (Stages.setUp? c now).isSome ↔
      (Ticker.start? now c.batchMaxWait).isSome ∧ (Ticker.start? now c.spoolReplayInterval).isSome ∧
        (Ticker.start? now c.heartbeatInterval).isSome ∧ c.queueDepth ≤ Mailbox.mostItems ∧
        (Ring.allocate? c.qnameHashCap).isSome := by
  constructor
  · intro h
    obtain ⟨s, hs⟩ := Option.isSome_iff_exists.mp h
    rw [Stages.setUp?] at hs
    obtain ⟨_, hbatches, hs⟩ := Option.bind_eq_some_iff.mp hs
    obtain ⟨_, hreplays, hs⟩ := Option.bind_eq_some_iff.mp hs
    obtain ⟨_, hheartbeats, hs⟩ := Option.bind_eq_some_iff.mp hs
    obtain ⟨_, houtgoing, hs⟩ := Option.bind_eq_some_iff.mp hs
    obtain ⟨_, -, hs⟩ := Option.bind_eq_some_iff.mp hs
    obtain ⟨_, -, hs⟩ := Option.bind_eq_some_iff.mp hs
    obtain ⟨_, hhistory, -⟩ := Option.bind_eq_some_iff.mp hs
    exact ⟨Option.isSome_of_eq_some hbatches, Option.isSome_of_eq_some hreplays,
      Option.isSome_of_eq_some hheartbeats, isSome_open?_iff.mp (Option.isSome_of_eq_some houtgoing),
      Option.isSome_of_eq_some hhistory⟩
  · rintro ⟨hbatches, hreplays, hheartbeats, hdepth, hhistory⟩
    obtain ⟨batches, hbatches⟩ := Option.isSome_iff_exists.mp hbatches
    obtain ⟨replays, hreplays⟩ := Option.isSome_iff_exists.mp hreplays
    obtain ⟨heartbeats, hheartbeats⟩ := Option.isSome_iff_exists.mp hheartbeats
    obtain ⟨events, hevents⟩ := Option.isSome_iff_exists.mp ((isSome_open?_iff (α := Event)).mpr hdepth)
    obtain ⟨lines, hlines⟩ := Option.isSome_iff_exists.mp ((isSome_open?_iff (α := String)).mpr hdepth)
    obtain ⟨history, hhistory⟩ := Option.isSome_iff_exists.mp hhistory
    rw [Stages.setUp?, hbatches, hreplays, hheartbeats, hevents, hlines, hhistory]
    rfl

/-- A period of whole seconds can be added as long as its seconds can. -/
theorem add_seconds (now s : Nat) : (now + s * nanosPerSecond) / nanosPerSecond = now / nanosPerSecond + s :=
  Nat.add_mul_div_right _ _ (by decide)

/-- **What is left to the settings.** The periods of a configuration that was loaded are not zero, and batches never
wait for too long. The stages can be set up just if the other periods do not reach beyond what an instant can hold, and
mailboxes and histories not beyond what there is room for; nothing of this is seen to when a configuration is loaded. -/
theorem set_up_within_limits {path : String} {file : Option Bytes} {vars : List (String × String)} {c : Config}
    {w : Option String} (hload : load path file vars = .ok (c, w)) {now : Nat}
    (hnow : now < Nat.pow 2 62 * nanosPerSecond) :
    c.batchMaxWait ≠ 0 ∧ c.spoolReplayInterval ≠ 0 ∧ c.heartbeatInterval ≠ 0 ∧
      (now + c.batchMaxWait) / nanosPerSecond ≤ lastSecond ∧
      ((Stages.setUp? c now).isSome ↔
        now / nanosPerSecond + c.spoolReplayIntervalSecs ≤ lastSecond ∧
        now / nanosPerSecond + c.heartbeatIntervalSecs ≤ lastSecond ∧
        c.queueDepth ≤ Mailbox.mostItems ∧ c.qnameHashCap * textBytes ≤ mostBytes) := by
  obtain ⟨-, hwait, -, -, -, -, hreplay, hheartbeat⟩ := load_ne_zero hload
  have hsecond : nanosPerSecond ≠ 0 := by decide
  have hbatches : c.batchMaxWait ≠ 0 := Nat.mul_ne_zero hwait (by decide)
  have hreplays : c.spoolReplayInterval ≠ 0 := Nat.mul_ne_zero hreplay hsecond
  have hheartbeats : c.heartbeatInterval ≠ 0 := Nat.mul_ne_zero hheartbeat hsecond
  have hlimit : (now + c.batchMaxWait) / nanosPerSecond ≤ lastSecond := by
    have hfits : c.batchMaxWaitMs < 18446744073709551616 := load_fits hload .batchMaxWaitMs
    have hbefore : now < 4611686018427387904 * 1000000000 := hnow
    have hlast : lastSecond = 9223372036854775807 := rfl
    rw [batchMaxWait, nanosPerSecond, hlast]
    omega
  refine ⟨hbatches, hreplays, hheartbeats, hlimit, ?_⟩
  rw [isSome_setUp?_iff, isSome_start?_iff, isSome_start?_iff, isSome_start?_iff, isSome_allocate?_iff]
  have hreplayed : (now + c.spoolReplayInterval) / nanosPerSecond =
      now / nanosPerSecond + c.spoolReplayIntervalSecs := add_seconds ..
  have hbeaten : (now + c.heartbeatInterval) / nanosPerSecond =
      now / nanosPerSecond + c.heartbeatIntervalSecs := add_seconds ..
  rw [hreplayed, hbeaten]
  exact ⟨fun ⟨_, ⟨_, h₁⟩, ⟨_, h₂⟩, h₃, h₄⟩ => ⟨h₁, h₂, h₃, h₄⟩,
    fun ⟨h₁, h₂, h₃, h₄⟩ => ⟨⟨hbatches, hlimit⟩, ⟨hreplays, h₁⟩, ⟨hheartbeats, h₂⟩, h₃, h₄⟩⟩

/-- Settings up to the limits. -/
theorem set_up_of_greatest :
    let file := ("router_id: a\ncollector_url: http://b\nauth_token: c\nnflog_groups: [1]\n" ++
      "heartbeat_interval_secs: 9223372036854775807\nqueue_depth: 2305843009213693951\n").toUTF8.data.toList
    let c : Config := {
      routerId := "a", collectorUrl := "http://b", authToken := "c", nflogGroups := [1],
      heartbeatIntervalSecs := Nat.pow 2 63 - 1, queueDepth := Nat.pow 2 61 - 1 }
    load "d" (some file) [] = .ok (c, none) ∧ 0 < Nat.pow 2 62 * nanosPerSecond ∧ (Stages.setUp? c 0).isSome := by
  intro file c
  have hload : load "d" (some file) [] = .ok (c, none) := by decide +kernel
  have hnow : 0 < Nat.pow 2 62 * nanosPerSecond := by decide
  obtain ⟨-, -, -, -, hiff⟩ := set_up_within_limits hload hnow
  exact ⟨hload, hnow, hiff.mpr (by decide)⟩

/-- Settings beyond the limits, which are loaded all the same. -/
theorem loaded_beyond_limits :
    let file := ("router_id: a\ncollector_url: http://b\nauth_token: c\nnflog_groups: [1]\n" ++
      "spool_replay_interval_secs: 9223372036854775808\nheartbeat_interval_secs: 9223372036854775808\n" ++
      "queue_depth: 2305843009213693952\nqname_hash_cap: 384307168202282326\n").toUTF8.data.toList
    ∃ c, load "d" (some file) [] = .ok (c, none) ∧
      Ticker.start? 0 c.spoolReplayInterval = none ∧ Ticker.start? 0 c.heartbeatInterval = none ∧
      (Mailbox.open? c.queueDepth : Option (Mailbox Event)).isNone ∧ (Ring.allocate? c.qnameHashCap).isNone := by
  intro file
  refine ⟨{ routerId := "a", collectorUrl := "http://b", authToken := "c", nflogGroups := [1],
            spoolReplayIntervalSecs := Nat.pow 2 63, heartbeatIntervalSecs := Nat.pow 2 63,
            queueDepth := Nat.pow 2 61, qnameHashCap := 384307168202282326 }, ?_, ?_, ?_, ?_, ?_⟩
  · decide +kernel
  · decide
  · decide
  · decide
  · decide

end RouterTelemetry.Config
