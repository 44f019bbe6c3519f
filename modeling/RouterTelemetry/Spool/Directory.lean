import RouterTelemetry.Text.Utf8
import RouterTelemetry.Time.Instant
/-!
# The spool's directory

A directory as a value: named entries in byte order of their names, each a regular file with its content
or a directory of its own. Changes are single operations of the file system, so that what a crash between
two of them leaves behind can be said.
-/

namespace RouterTelemetry.Spool

open Text (Bytes)

/-- The name of a file: any bytes. -/
abbrev Name := Bytes

/-- The byte order of names. -/
def Name.le : Name → Name → Bool
  | [], _ => true
  | _ :: _, [] => false
  | a :: as, b :: bs => a < b || (a == b && Name.le as bs)

/-- The name that a text is. -/
def Name.ofString (s : String) : Name :=
  Text.encodeUtf8 s.toList

/-- What stands under a name. -/
inductive Entry where
  | file (content : Bytes)
  | directory
deriving DecidableEq, Repr

/-- The entries of a directory, in order of their names. -/
structure Directory where
  entries : List (Name × Entry) := []
deriving DecidableEq, Repr

namespace Directory

/-- Puts an entry in its place, over one of the same name. -/
def insert (name : Name) (e : Entry) : List (Name × Entry) → List (Name × Entry)
  | [] => [(name, e)]
  | (n, f) :: rest =>
    if n = name then (name, e) :: rest
    else if Name.le name n then (name, e) :: (n, f) :: rest
    else (n, f) :: insert name e rest

/-- What stands under a name. -/
def get? (d : Directory) (name : Name) : Option Entry :=
  d.entries.lookup name

/-- The directory with an entry under a name. -/
def put (d : Directory) (name : Name) (e : Entry) : Directory :=
  ⟨insert name e d.entries⟩

/-- The directory without the entry under a name. -/
def erase (d : Directory) (name : Name) : Directory :=
  ⟨d.entries.filter (·.1 != name)⟩

/-- An operation of the file system that changes a directory. -/
inductive Operation where
  /-- Makes an empty file, over one that is there. -/
  | create (name : Name)
  /-- Adds bytes at the end of a file. -/
  | append (name : Name) (bytes : Bytes)
  /-- Makes sure that a file's content outlives a crash. -/
  | sync (name : Name)
  /-- Gives a file another name, in the place of a file that has it. -/
  | rename (name newName : Name)
  /-- Removes a file. -/
  | remove (name : Name)
deriving DecidableEq, Repr

/-- What an operation that succeeds does. -/
def apply (d : Directory) : Operation → Directory
  | .create name => d.put name (.file [])
  | .append name bytes =>
    match d.get? name with
    | some (.file content) => d.put name (.file (content ++ bytes))
    | _ => d
  | .sync _ => d
  | .rename name newName =>
    match d.get? name with
    | some e => (d.erase name).put newName e
    | none => d
  | .remove name => d.erase name

/-- What a sequence of operations that succeed does. -/
def applyAll (d : Directory) (ops : List Operation) : Directory :=
  ops.foldl apply d

end Directory

/-! ## Batches -/

/-- How the name of a batch begins. -/
def batchPrefix : Name := Name.ofString "batch_"

/-- How the name of a batch ends. -/
def batchSuffix : Name := Name.ofString ".json"

/-- How the name of a batch that is still being written ends. -/
def temporarySuffix : Name := Name.ofString ".tmp"

/-- Whether a name is the name of a batch: text that begins and ends as such names do. -/
def isBatchName (n : Name) : Bool :=
  (Text.decodeUtf8? n).isSome && batchPrefix.isPrefixOf n && batchSuffix.isSuffixOf n

/-- The name of the batch that is stored at a time: with twenty digits, so that later names come later in
byte order. -/
def batchName (nanos : Nat) : Name :=
  batchPrefix ++ Text.encodeUtf8 (Time.Instant.padded 20 nanos) ++ batchSuffix

/-- A stored batch. -/
structure StoredBatch where
  name : Name
  content : Bytes
deriving DecidableEq, Repr

/-- The size of a stored batch. -/
def StoredBatch.size (b : StoredBatch) : Nat :=
  b.content.length

/-- The batch that an entry is: a regular file with the name of a batch. -/
def batchOf? : Name × Entry → Option StoredBatch
  | (name, .file content) => if isBatchName name then some ⟨name, content⟩ else none
  | (_, .directory) => none

/-- The batches of a directory, oldest first. -/
def Directory.batches (d : Directory) : List StoredBatch :=
  d.entries.filterMap batchOf?

end RouterTelemetry.Spool
