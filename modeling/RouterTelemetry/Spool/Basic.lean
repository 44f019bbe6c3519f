import RouterTelemetry.Spool.Directory
/-!
# The spool

The queue on disk of batches that could not be delivered. Each batch is one file, named after the time at
which it was stored, so that the order of names is the order of storing. The size of all batches is bounded:
the oldest ones make room for a new one. A batch is written under another name first and renamed when it is
complete, so that no one sees a part of it.
-/

namespace RouterTelemetry

open Text (Bytes)
open Spool

/-- What stands at the path of the spool. -/
inductive Spool.Place where
  | absent
  | file
  | directory (d : Directory)
deriving DecidableEq, Repr

/-- Why an operation of the spool fails. -/
inductive Spool.Error where
  /-- There is no batch. -/
  | empty
  /-- The batch does not fit even if all others make room. -/
  | full (needed capacity : Nat)
  /-- The file system refuses. -/
  | storage
deriving DecidableEq, Repr

/-- The wording of a failure. -/
def Spool.Error.message : Spool.Error → String
  | .empty => "spool is empty"
  | .full needed capacity =>
    "spool full: " ++ toString needed ++ " bytes needed, capacity is " ++ toString capacity
      ++ " bytes"
  | .storage => "spool I/O error"

/-- A spool: its directory, the greatest size of all batches, and the time of the name that was given
last. -/
structure Spool where
  place : Spool.Place
  maxBytes : Nat
  lastNanos : Nat := 0
deriving DecidableEq, Repr

namespace Spool

/-- A spool on what another one has left behind. -/
def reopen (s : Spool) (maxBytes : Nat) : Spool :=
  { place := s.place, maxBytes }

/-- Makes the directory if there is nothing in its place. -/
def ensure (s : Spool) : Except Error Unit × Spool :=
  match s.place with
  | .absent => (.ok (), { s with place := .directory {} })
  | .file => (.error .storage, s)
  | .directory _ => (.ok (), s)

/-- The batches, oldest first, if the directory can be read. -/
def batches? (s : Spool) : Option (List StoredBatch) :=
  match s.place with
  | .directory d => some d.batches
  | _ => none

/-- The batches, oldest first; none if the directory cannot be read. -/
def batches (s : Spool) : List StoredBatch :=
  s.batches?.getD []

/-- What the file system makes of the calls of one operation of the spool. -/
structure Disk where
  /-- Whether the directory can be listed. -/
  lists : Bool := true
  /-- Whether a file can be looked at; one that cannot is left out of the listing. -/
  shows : Name → Bool := fun _ => true
  /-- Whether a file can be read. -/
  reads : Name → Bool := fun _ => true
  /-- Whether a file can be removed. -/
  removes : Name → Bool := fun _ => true
  /-- Which of the five calls that write a batch fails, if one does. -/
  fails : Option (Fin 5) := none
  /-- How many bytes of a batch are written at first; the others are written after them. -/
  split : Nat := 0

/-- The batches that a listing shows, oldest first, if the directory can be listed. -/
def listed? (s : Spool) (disk : Disk) : Option (List StoredBatch) :=
  if disk.lists then s.batches?.map (·.filter fun b => disk.shows b.name) else none

/-- The size of some batches. -/
def totalSize : List StoredBatch → Nat
  | [] => 0
  | b :: bs => b.size + totalSize bs

/-- The size of all batches; zero if the directory cannot be read. -/
def sizeBytes (s : Spool) : Nat :=
  totalSize s.batches

/-- The number of batches; zero if the directory cannot be read. -/
def count (s : Spool) : Nat :=
  s.batches.length

/-- The batches, oldest first, that go until the rest of `current` bytes and `needed` bytes more fit. One
that cannot be removed stays, and the next one goes in its place. -/
def evicted (disk : Disk) (maxBytes needed : Nat) : Nat → List StoredBatch → List StoredBatch
  | _, [] => []
  | current, b :: rest =>
    if current + needed ≤ maxBytes then []
    else if disk.removes b.name then
      b :: evicted disk maxBytes needed (current - b.size) rest
    else evicted disk maxBytes needed current rest

/-- The operations that remove some batches. -/
def removal (bs : List StoredBatch) : List Directory.Operation :=
  bs.map fun b => .remove b.name

/-- The operations that store a batch under a name. -/
def store (name : Name) (payload : Bytes) (split : Nat) : List Directory.Operation :=
  let temporary := name ++ temporarySuffix
  [.create temporary, .append temporary (payload.take split),
    .append temporary (payload.drop split), .sync temporary, .rename temporary name]

/-- The operations that are made of those that store a batch, and the result. After one that fails, what
was written is removed. -/
def written (disk : Disk) (name : Name) (payload : Bytes) :
    Except Error Unit × List Directory.Operation :=
  let calls := store name payload disk.split
  let temporary := name ++ temporarySuffix
  match disk.fails with
  | none => (.ok (), calls)
  | some i =>
    (.error .storage,
      calls.take i ++ if disk.removes temporary then [.remove temporary] else [])

/-- The time in the name that is given at the time `now`: the time itself, unless it is not later than in
the name given before. -/
def nextNanos (s : Spool) (now : Nat) : Nat :=
  max now (s.lastNanos + 1)

/-- The batches that make room for `needed` bytes. -/
def evictions (s : Spool) (needed : Nat) (disk : Disk := {}) : List StoredBatch :=
  match s.listed? disk with
  | some bs => evicted disk s.maxBytes needed (totalSize bs) bs
  | none => []

/-- Stores a batch at the time `now`. An empty one needs no storing. -/
def enqueue (s : Spool) (now : Nat) (payload : Bytes) (disk : Disk := {}) :
    Except Error Unit × Spool :=
  if payload.isEmpty then (.ok (), s)
  else
    match s.place, s.listed? disk with
    | .directory d, some bs =>
      let needed := payload.length
      let gone := s.evictions needed disk
      let room := d.applyAll (removal gone)
      if totalSize bs - totalSize gone + needed ≤ s.maxBytes then
        let nanos := s.nextNanos now
        let (result, calls) := written disk (batchName nanos) payload
        (result, { s with place := .directory (room.applyAll calls), lastNanos := nanos })
      else (.error (.full needed s.maxBytes), { s with place := .directory room })
    | _, _ => (.error .storage, s)

/-- The oldest batch, which stays. -/
def dequeueOldest (s : Spool) (disk : Disk := {}) : Except Error StoredBatch :=
  match s.listed? disk with
  | none => .error .storage
  | some [] => .error .empty
  | some (b :: _) => if disk.reads b.name then .ok b else .error .storage

/-- Removes a batch that was delivered. One that is not there is no failure. -/
def ack (s : Spool) (name : Name) (disk : Disk := {}) : Except Error Unit × Spool :=
  match s.place with
  | .absent => (.ok (), s)
  | .file => (.error .storage, s)
  | .directory d =>
    match d.get? name with
    | none => (.ok (), s)
    | some .directory => (.error .storage, s)
    | some (.file _) =>
      if disk.removes name then (.ok (), { s with place := .directory (d.apply (.remove name)) })
      else (.error .storage, s)

end Spool

end RouterTelemetry
