import RouterTelemetry.Table
import RouterTelemetry.Text.Utf8

/-!
# Log files

The files that a log goes through. The resolver writes to whatever stands at the log's path; a rotation
moves that away under another name. A file keeps its identity when it is moved, and can still be read by
whoever has it open when it is removed.
-/

namespace RouterTelemetry.Dns

open Text (Bytes)

/-- A file with its content, or a directory. -/
inductive LogNode where
  | file (content : Bytes)
  | directory
deriving DecidableEq, Repr

namespace LogNode

/-- What can be read from a node. -/
def content : LogNode → Bytes
  | .file b => b
  | .directory => []

/-- The node with more at its end. -/
def append (data : Bytes) : LogNode → LogNode
  | .file b => .file (b ++ data)
  | .directory => .directory

/-- The node with another content. -/
def overwrite (data : Bytes) : LogNode → LogNode
  | .file _ => .file data
  | .directory => .directory

end LogNode

/-- All nodes that ever were, by their identity; what stands at the path of the log; and what was moved
away from it. -/
structure LogFiles where
  nodes : List LogNode := []
  current : Option Nat := none
  moved : List (String × Nat) := []
deriving Repr

namespace LogFiles

/-- The node of an identity. -/
def node? (f : LogFiles) (id : Nat) : Option LogNode :=
  f.nodes[id]?

/-- The content of the node of an identity. -/
def contentOf (f : LogFiles) (id : Nat) : Bytes :=
  match f.node? id with
  | some n => n.content
  | none => []

/-- Changes a node. -/
def alter (f : LogFiles) (id : Nat) (change : LogNode → LogNode) : LogFiles :=
  { f with nodes := f.nodes.modify id change }

/-- Puts a new node at the path. -/
def create (f : LogFiles) (n : LogNode) : LogFiles :=
  { f with nodes := f.nodes ++ [n], current := some f.nodes.length }

/-- Writes behind the end of the file at the path, which is created if need be. -/
def append (f : LogFiles) (data : Bytes) : LogFiles :=
  match f.current with
  | some id => f.alter id (.append data)
  | none => f.create (.file data)

/-- Replaces the content of the file at the path, which stays the same file. -/
def write (f : LogFiles) (data : Bytes) : LogFiles :=
  match f.current with
  | some id => f.alter id (.overwrite data)
  | none => f.create (.file data)

/-- Moves what stands at the path to another name. -/
def rename (f : LogFiles) (name : String) : LogFiles :=
  match f.current with
  | some id => { f with current := none, moved := Table.put name id f.moved }
  | none => f

/-- Moves what stands under another name to the path. -/
def restore (f : LogFiles) (name : String) : LogFiles :=
  match Table.find? name f.moved with
  | some id => { f with current := some id, moved := f.moved.filter fun e => e.1 != name }
  | none => f

/-- Writes behind the end of a file that was moved, which is created if need be. -/
def appendTo (f : LogFiles) (name : String) (data : Bytes) : LogFiles :=
  match Table.find? name f.moved with
  | some id => f.alter id (.append data)
  | none =>
    { f with nodes := f.nodes ++ [.file data], moved := Table.put name f.nodes.length f.moved }

/-- Removes what stands at the path. -/
def remove (f : LogFiles) : LogFiles :=
  { f with current := none }

end LogFiles

end RouterTelemetry.Dns
