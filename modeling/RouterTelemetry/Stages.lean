import RouterTelemetry.Config.Basic
import RouterTelemetry.Event.Basic
import RouterTelemetry.Mailbox
import RouterTelemetry.Ring
import RouterTelemetry.Time.Ticker

/-!
# Setting up the stages

What the stages of the agent are set up with: tickers, mailboxes, and the history of a client as soon as there is
one. How large they are is up to the configuration. A stage that asks for more than the machine can hold, or for a
ticker without a period, panics: there is `none` of what it asks for.
-/

namespace RouterTelemetry

open Time (Ticker nanosPerSecond)

/-! ## Tickers -/

/-- The last second that an instant of the machine's clock can hold, in sixty-four bits with a sign. -/
def lastSecond : Nat := Nat.pow 2 63 - 1

/-- A ticker that fires first after one period. Times are in nanoseconds. -/
def Time.Ticker.start? (now period : Nat) : Option Ticker :=
  if period = 0 ∨ lastSecond < (now + period) / nanosPerSecond then none else some (.delayed now period)

/-! ## Mailboxes and histories -/

/-- The most items that a mailbox may have room for. -/
def Mailbox.mostItems : Nat := Nat.pow 2 61 - 1

/-- An empty mailbox with room for `capacity` items, and for one at least. -/
def Mailbox.open? {α : Type} (capacity : Nat) : Option (Mailbox α) :=
  if mostItems < max capacity 1 then none else some (empty capacity)

/-- The most bytes that can be asked for at a time. -/
def mostBytes : Nat := Nat.pow 2 63 - 1

/-- The bytes of a text that stands in a history, less its characters. -/
def textBytes : Nat := 24

/-- An empty history with room for `capacity` texts, for which the bytes are asked for at once. -/
def Ring.allocate? (capacity : Nat) : Option (Ring String) :=
  if mostBytes < capacity * textBytes then none else some (empty capacity)

/-! ## Stages -/

namespace Config

/-- How long a batch waits for more events, in nanoseconds. -/
def batchMaxWait (c : Config) : Nat :=
  c.batchMaxWaitMs * 1000000

/-- How long after each other stored batches are sent again, in nanoseconds. -/
def spoolReplayInterval (c : Config) : Nat :=
  c.spoolReplayIntervalSecs * nanosPerSecond

/-- How long after each other signs of life are given, in nanoseconds. -/
def heartbeatInterval (c : Config) : Nat :=
  c.heartbeatIntervalSecs * nanosPerSecond

end Config

/-- The tickers, mailboxes and first history of the stages. -/
structure Stages where
  batches : Ticker
  replays : Ticker
  heartbeats : Ticker
  outgoing : Mailbox Event
  events : Mailbox Event
  lines : Mailbox String
  history : Ring String

/-- Sets up the stages for a configuration, at a time of the machine's clock. -/
def Stages.setUp? (c : Config) (now : Nat) : Option Stages := do
  some {
    batches := ← Ticker.start? now c.batchMaxWait
    replays := ← Ticker.start? now c.spoolReplayInterval
    heartbeats := ← Ticker.start? now c.heartbeatInterval
    outgoing := ← Mailbox.open? c.queueDepth
    events := ← Mailbox.open? c.queueDepth
    lines := ← Mailbox.open? c.queueDepth
    history := ← Ring.allocate? c.qnameHashCap }

end RouterTelemetry
