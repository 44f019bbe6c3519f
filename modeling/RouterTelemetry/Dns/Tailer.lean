import RouterTelemetry.Dns.LogFiles
import RouterTelemetry.Mailbox
import RouterTelemetry.Text.Blank

/-!
# Following a log

The tailer looks at the log from time to time and passes on the lines that are new. It starts at the end of
the file that it finds first, and at the start of every later one. A line is passed on only once its line
feed is there. The file is opened anew when another one stands at the path, or when it has become shorter
than what was read of it.
-/

namespace RouterTelemetry.Dns

open Text

/-- A file that is being followed: how far it was read, and the start of a line whose end is to come. -/
structure OpenFile where
  id : Nat
  position : Nat
  unfinished : Bytes
deriving DecidableEq, Repr

/-- The state of the tailer. -/
structure Tailer where
  started : Bool := false
  file : Option OpenFile := none
deriving DecidableEq, Repr

namespace Tailer

/-- How often the log is looked at, in nanoseconds: once a second. -/
def pollPeriod : Nat := 1000000000

/-- The lines that bytes complete, each with its line feed, behind the reversed start of the first; and the
reversed start of a line that is left over. -/
def splitStep (s : List Bytes × Bytes) (b : UInt8) : List Bytes × Bytes :=
  if b = 10 then ((b :: s.2).reverse :: s.1, []) else (s.1, b :: s.2)

/-- The lines that bytes complete, the first of which starts with `unfinished`, and what is left over. -/
def splitLines (unfinished bytes : Bytes) : List Bytes × Bytes :=
  let (done, last) := bytes.foldl splitStep ([], unfinished.reverse)
  (done.reverse, last.reverse)

/-- The text of a line, without what ends it. -/
def lineText (line : Bytes) : String :=
  String.ofList (dropEndWhile (fun c => c == '\n' || c == '\r') (decodeLossy line))

/-- Opens what stands at the path, if anything does. -/
def openFile (files : LogFiles) (atEnd : Bool) : Option OpenFile :=
  files.current.map fun id => ⟨id, if atEnd then (files.contentOf id).length else 0, []⟩

/-- Whether another file stands at the path, or the file has become shorter. -/
def isReplaced (files : LogFiles) (f : OpenFile) : Bool :=
  match files.current with
  | some id => id != f.id || (files.contentOf id).length < f.position
  | none => false

/-- Reads what is new in the open file: the lines that are complete, and the file read to its end. -/
def readLines (files : LogFiles) (f : OpenFile) : List String × OpenFile :=
  let new := (files.contentOf f.id).drop f.position
  let (lines, unfinished) := splitLines f.unfinished new
  (lines.map lineText, { f with position := f.position + new.length, unfinished })

/-- Looks at the log: the lines to pass on, and the tailer afterwards. -/
def poll (files : LogFiles) (t : Tailer) : List String × Tailer :=
  if !t.started then ([], ⟨true, openFile files true⟩)
  else
    let file := match t.file with
      | none => openFile files false
      | some f => if isReplaced files f then openFile files false else some f
    match file with
    | none => ([], { t with file := none })
    | some f =>
      let (lines, f) := readLines files f
      (lines, { t with file := some f })

/-- Looks at the log and sends the new lines: their number, and the state afterwards. -/
def forward (files : LogFiles) (t : Tailer) (out : Mailbox String) (stats : Stats) :
    Nat × Tailer × Mailbox String × Stats :=
  let (lines, t) := t.poll files
  let (_, out, stats) := out.sendAll .dnsLines stats lines
  (lines.length, t, out, stats)

end Tailer

/-- The tailer at work: it looks at the log whenever its time has come, until it is stopped. -/
structure TailTask where
  tailer : Tailer := {}
  out : Mailbox String
  stats : Stats := {}
  running : Bool := false

namespace TailTask

/-- The task after `n` of its times have come. -/
def ticks (files : LogFiles) (t : TailTask) : Nat → TailTask
  | 0 => t
  | n + 1 =>
    if t.running then
      let (_, tailer, out, stats) := t.tailer.forward files t.out t.stats
      ticks files { t with tailer, out, stats } n
    else t

end TailTask

end RouterTelemetry.Dns
