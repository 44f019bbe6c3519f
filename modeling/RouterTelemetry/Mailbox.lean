import RouterTelemetry.Stats
/-!
# Mailboxes

A bounded queue between two parts of the agent. Senders never wait: what does not fit is dropped, and
counted under the stream of the handle it was sent through. The handles of a queue differ only in the
stream they count under.
-/

namespace RouterTelemetry

/-- A bounded queue, and whether its receiver still takes items. -/
structure Mailbox (α : Type) where
  capacity : Nat
  queue : List α
  isOpen : Bool

namespace Mailbox

variable {α : Type}

/-- An empty mailbox with room for `capacity` items, and for one at least. -/
def empty (capacity : Nat) : Mailbox α :=
  ⟨max capacity 1, [], true⟩

/-- The number of items that wait. -/
def depth (m : Mailbox α) : Nat :=
  m.queue.length

/-- Whether an item that is sent now is accepted. -/
def hasRoom (m : Mailbox α) : Bool :=
  m.isOpen && m.depth < m.capacity

/-- Adds an item, if there is room. -/
def put (m : Mailbox α) (a : α) : Mailbox α :=
  if m.hasRoom then { m with queue := m.queue ++ [a] } else m

/-- Sends an item through a handle of a stream: whether it was accepted, the mailbox, and the
counters. -/
def send (m : Mailbox α) (stream : Stream) (stats : Stats) (a : α) : Bool × Mailbox α × Stats :=
  if m.hasRoom then (true, m.put a, stats) else (false, m, stats.recordDrop stream)

/-- Takes the oldest item. -/
def take? (m : Mailbox α) : Option (α × Mailbox α) :=
  match m.queue with
  | [] => none
  | a :: rest => some (a, { m with queue := rest })

/-- The receiver takes no more new items, but still those that wait. -/
def close (m : Mailbox α) : Mailbox α :=
  { m with isOpen := false }

/-- The receiver is gone, and the items that waited with it. -/
def discard (m : Mailbox α) : Mailbox α :=
  { m with queue := [], isOpen := false }

/-- Sends items one after the other: which were accepted, the mailbox, and the counters. -/
def sendAll (m : Mailbox α) (stream : Stream) (stats : Stats) :
    List α → List Bool × Mailbox α × Stats
  | [] => ([], m, stats)
  | a :: rest =>
    let (ok, m, stats) := m.send stream stats a
    let (oks, m, stats) := m.sendAll stream stats rest
    (ok :: oks, m, stats)

/-! ## Handles -/

/-- A handle of a mailbox. What finds no room counts as dropped under its stream. -/
structure Handle where
  stream : Stream
deriving DecidableEq, Repr

namespace Handle

/-- Another handle of the same mailbox. -/
def clone (h : Handle) : Handle := h

/-- Another handle of the same mailbox, under another stream. -/
def relabel (_ : Handle) (stream : Stream) : Handle := { stream }

/-- Sends an item through the handle: whether it was accepted, the mailbox, and the counters. -/
def send (h : Handle) (m : Mailbox α) (stats : Stats) (a : α) : Bool × Mailbox α × Stats :=
  m.send h.stream stats a

end Handle

end Mailbox

end RouterTelemetry
