import Mathlib.Algebra.GroupWithZero.Nat
import RouterTelemetry.Proofs.Dns.Rotation
import RouterTelemetry.Proofs.Mailbox.Accounting
/-!
# Lines do not depend on how bytes arrive

What the tailer passes to its mailbox while something is written behind the end of the log, piece by piece, and
the tailer looks at it from time to time. The pieces may end anywhere: inside a line, before its line feed, or
inside a character. Main statements:

* `Relay.Reads.step` : what one step preserves;
* `passed_as_written` : what was passed on in a whole run is a matter of the bytes alone.
-/

namespace RouterTelemetry.Dns

open Text (Bytes)

/-! ## The log -/

namespace LogFiles

variable {files : LogFiles}

/-- What can be read at the path. -/
def atPath (files : LogFiles) : Bytes :=
  match files.current with
  | some id => files.contentOf id
  | none => []

/-- What stands at the path is a file, if anything stands there. -/
def IsLog (files : LogFiles) : Prop :=
  ∀ id, files.current = some id → ∃ content, files.node? id = some (.file content)

theorem atPath_of_current {id : Nat} (h : files.current = some id) :
    files.atPath = files.contentOf id := by
  rw [atPath, h]

theorem atPath_of_none (h : files.current = none) : files.atPath = [] := by
  rw [atPath, h]

/-- The file that is created stands at the path. -/
theorem node?_create (files : LogFiles) (n : LogNode) :
    (files.create n).node? files.nodes.length = some n := by
  rw [node?, create, List.getElem?_concat_length]

/-- What is written stands behind what was there. -/
theorem IsLog.append (h : files.IsLog) (data : Bytes) :
    (files.append data).IsLog ∧ (files.append data).atPath = files.atPath ++ data := by
  cases hcurrent : files.current with
  | none =>
    have hnode := files.node?_create (.file data)
    rw [LogFiles.append, hcurrent, atPath_of_none hcurrent]
    refine ⟨fun id hid => ?_, (atPath_of_current rfl).trans (contentOf_eq hnode)⟩
    obtain rfl := Option.some.inj hid
    exact ⟨data, hnode⟩
  | some id =>
    obtain ⟨content, hcontent⟩ := h id hcurrent
    have hnode : (files.alter id (.append data)).node? id = some (.file (content ++ data)) := by
      rw [node?_alter, hcontent]
      rfl
    have hstays : (files.alter id (.append data)).current = some id := hcurrent
    rw [LogFiles.append, hcurrent, atPath_of_current hcurrent, contentOf_eq hcontent]
    refine ⟨fun id' hid' => ?_, (atPath_of_current hstays).trans (contentOf_eq hnode)⟩
    obtain rfl := Option.some.inj (hcurrent.symm.trans hid')
    exact ⟨content ++ data, hnode⟩

end LogFiles

/-! ## Runs -/

/-- The tailer between the log and its mailbox, and what has gone through it so far. -/
structure Relay where
  files : LogFiles
  tailer : Tailer := {}
  out : Mailbox String
  stats : Stats
  /-- The lines that were passed to the mailbox. -/
  passed : List String := []
  /-- What looking at the log has returned, time after time. -/
  returned : List Nat := []
  /-- The lines that were taken from the mailbox. -/
  received : List String := []

/-- What happens while a log is written. -/
inductive LogEvent where
  /-- Something is written behind the end of the log, which is created if need be. -/
  | written (data : Bytes)
  /-- The tailer looks at the log. -/
  | polled
  /-- The receiver takes a line. -/
  | received

/-- What is written in an event. -/
def LogEvent.data : LogEvent → Bytes
  | .written data => data
  | .polled => []
  | .received => []

/-- All that is written in some events. -/
def writtenIn (es : List LogEvent) : Bytes :=
  es.flatMap LogEvent.data

namespace Relay

/-- The tailer looks at the log, and passes the new lines to the mailbox. -/
def poll (r : Relay) : Relay :=
  let (n, tailer, out, stats) := r.tailer.forward r.files r.out r.stats
  { r with
    tailer, out, stats
    passed := r.passed ++ (r.tailer.poll r.files).1
    returned := r.returned ++ [n] }

/-- The receiver takes the oldest line, if one waits. -/
def receive (r : Relay) : Relay :=
  match r.out.take? with
  | some (line, out) => { r with out, received := r.received ++ [line] }
  | none => r

/-- The relay after an event. -/
def step (r : Relay) : LogEvent → Relay
  | .written data => { r with files := r.files.append data }
  | .polled => r.poll
  | .received => r.receive

/-- The relay after some events. -/
def steps (r : Relay) (es : List LogEvent) : Relay :=
  es.foldl step r

end Relay

namespace Tailer

variable {files : LogFiles}

/-- A file that has come to the path is read from its start. -/
theorem poll_of_closed {id : Nat} (hcurrent : files.current = some id) :
    poll files ⟨true, none⟩ =
      (textLines (files.contentOf id), ⟨true, some (.upTo id 0 (files.contentOf id))⟩) := by
  have hpoll : poll files ⟨true, none⟩ =
      ((readLines files (.upTo id 0 [])).1, ⟨true, some (readLines files (.upTo id 0 [])).2⟩) := by
    simp [poll, openFile_of_current hcurrent]
  rw [hpoll, readLines_from_start]

/-- While nothing stands at the path there is nothing to open. -/
theorem poll_of_missing (hcurrent : files.current = none) :
    poll files ⟨true, none⟩ = ([], ⟨true, none⟩) := by
  simp [poll, openFile, hcurrent]

end Tailer

/-! ## What is read -/

namespace Relay

/-- What the tailer has made of a log that had `base` when it first looked, and to whose end `written` was
written since. Of that it has read what it has seen; or it has found no file yet. -/
structure Reads (r : Relay) (base written seen : Bytes) : Prop where
  isLog : r.files.IsLog
  atPath : r.files.atPath = base ++ written
  reads : seen <+: written
  passed : r.passed = textLines seen
  opened : (∃ id, r.files.current = some id ∧
      r.tailer = ⟨true, some (.upTo id base.length seen)⟩) ∨
    (r.tailer = ⟨true, none⟩ ∧ base = [] ∧ seen = [])

namespace Reads

variable {r : Relay} {base written seen : Bytes}

theorem append (h : r.Reads base written seen) (data : Bytes) :
    (r.step (.written data)).Reads base (written ++ data) seen := by
  obtain ⟨hlog, hpath⟩ := h.isLog.append data
  refine ⟨hlog, ?_, h.reads.trans (List.prefix_append _ _), h.passed, ?_⟩
  · show (r.files.append data).atPath = base ++ (written ++ data)
    rw [hpath, h.atPath, List.append_assoc]
  · rcases h.opened with ⟨id, hcurrent, htailer⟩ | hclosed
    · refine Or.inl ⟨id, ?_, htailer⟩
      show (r.files.append data).current = some id
      rw [LogFiles.append, hcurrent]
      exact hcurrent
    · exact Or.inr hclosed

theorem receive (h : r.Reads base written seen) : (r.step .received).Reads base written seen := by
  show r.receive.Reads base written seen
  unfold Relay.receive
  split
  · exact { h with }
  · exact h

/-- What the tailer finds when it looks: the lines that it has not passed on yet. -/
theorem poll_eq (h : r.Reads base written seen) :
    ∃ lines tailer, r.tailer.poll r.files = (lines, tailer) ∧
      textLines seen ++ lines = textLines written ∧
      ((∃ id, r.files.current = some id ∧ tailer = ⟨true, some (.upTo id base.length written)⟩) ∨
        (tailer = ⟨true, none⟩ ∧ base = [] ∧ written = [])) := by
  obtain ⟨rest, hrest⟩ := h.reads
  have hpath := h.atPath
  rcases h.opened with ⟨id, hcurrent, htailer⟩ | ⟨htailer, hbase, hseen⟩
  · -- the open file is read on
    rw [LogFiles.atPath_of_current hcurrent, ← hrest] at hpath
    rw [htailer, Tailer.poll_upTo hcurrent hpath, ← hrest]
    exact ⟨_, _, rfl, (Tailer.textLines_append ..).symm, Or.inl ⟨id, hcurrent, rfl⟩⟩
  · subst hbase hseen
    rw [htailer]
    cases hcurrent : r.files.current with
    | none =>
      -- nothing stands at the path, so nothing was written
      rw [LogFiles.atPath_of_none hcurrent] at hpath
      have hwritten : written = [] := hpath.symm
      rw [Tailer.poll_of_missing hcurrent, hwritten]
      exact ⟨_, _, rfl, rfl, Or.inr ⟨rfl, rfl, rfl⟩⟩
    | some id =>
      -- the file has come since the tailer last looked
      rw [LogFiles.atPath_of_current hcurrent] at hpath
      rw [Tailer.poll_of_closed hcurrent, hpath]
      exact ⟨_, _, rfl, rfl, Or.inl ⟨id, rfl, rfl⟩⟩

theorem poll (h : r.Reads base written seen) : (r.step .polled).Reads base written written := by
  obtain ⟨lines, tailer, hpoll, hlines, hopened⟩ := h.poll_eq
  refine ⟨h.isLog, h.atPath, List.prefix_rfl, ?_, ?_⟩
  · show r.passed ++ (r.tailer.poll r.files).1 = textLines written
    rw [hpoll, h.passed, hlines]
  · show (∃ id, r.files.current = some id ∧ (r.tailer.poll r.files).2 = _) ∨
      ((r.tailer.poll r.files).2 = _ ∧ base = [] ∧ written = [])
    rw [hpoll]
    exact hopened

/-- **What one step preserves.** -/
theorem step (h : r.Reads base written seen) (e : LogEvent) :
    ∃ seen', (r.step e).Reads base (written ++ e.data) seen' := by
  cases e with
  | written data => exact ⟨seen, h.append data⟩
  | polled =>
    rw [LogEvent.data, List.append_nil]
    exact ⟨written, h.poll⟩
  | received =>
    rw [LogEvent.data, List.append_nil]
    exact ⟨seen, h.receive⟩

/-- What a whole run preserves. -/
theorem steps (h : r.Reads base written seen) (es : List LogEvent) :
    ∃ seen', (r.steps es).Reads base (written ++ writtenIn es) seen' := by
  induction es generalizing r written seen with
  | nil =>
    rw [writtenIn, List.flatMap_nil, List.append_nil]
    exact ⟨seen, h⟩
  | cons e es ih =>
    obtain ⟨seen', hstep⟩ := h.step e
    rw [writtenIn, List.flatMap_cons, ← List.append_assoc]
    exact ih hstep

end Reads

/-! ## What is sent -/

/-- What has become of the lines that were passed to a mailbox `out` with counters `stats`. -/
structure Hands (r : Relay) (out : Mailbox String) (stats : Stats) : Prop where
  /-- Looking at the log returns the number of lines that are passed on, whether or not they are accepted. -/
  returned : r.returned.sum = r.passed.length
  /-- The lines that are accepted stay in their order. -/
  kept : (r.received ++ r.out.queue).Sublist (out.queue ++ r.passed)
  /-- The lines that are not accepted are counted. -/
  dropped : r.received.length + r.out.queue.length + r.stats.dropped.get .dnsLines =
    out.queue.length + stats.dropped.get .dnsLines + r.passed.length

namespace Hands

variable {r : Relay} {out : Mailbox String} {stats : Stats}

theorem poll (h : r.Hands out stats) : (r.step .polled).Hands out stats := by
  set lines := (r.tailer.poll r.files).1 with hlines
  obtain ⟨kept, hsub, hqueue, hcount⟩ := r.out.sendAll_spec .dnsLines r.stats lines
  refine ⟨?_, ?_, ?_⟩
  · show (r.returned ++ [lines.length]).sum = (r.passed ++ lines).length
    rw [List.sum_append, List.sum_singleton, h.returned, List.length_append]
  · show (r.received ++ (r.out.sendAll .dnsLines r.stats lines).2.1.queue).Sublist
      (out.queue ++ (r.passed ++ lines))
    rw [hqueue, ← List.append_assoc, ← List.append_assoc]
    exact h.kept.append hsub
  · show r.received.length + (r.out.sendAll .dnsLines r.stats lines).2.1.queue.length
        + (r.out.sendAll .dnsLines r.stats lines).2.2.dropped.get .dnsLines =
      out.queue.length + stats.dropped.get .dnsLines + (r.passed ++ lines).length
    have hdropped := h.dropped
    rw [hqueue, List.length_append, List.length_append]
    omega

theorem receive (h : r.Hands out stats) : (r.step .received).Hands out stats := by
  show r.receive.Hands out stats
  unfold Relay.receive Mailbox.take?
  cases hqueue : r.out.queue with
  | nil => exact h
  | cons line rest =>
    have hkept := h.kept
    have hdropped := h.dropped
    rw [hqueue] at hkept hdropped
    refine ⟨h.returned, ?_, ?_⟩
    · show (r.received ++ [line] ++ rest).Sublist (out.queue ++ r.passed)
      rwa [List.append_assoc]
    · show (r.received ++ [line]).length + rest.length + r.stats.dropped.get .dnsLines =
        out.queue.length + stats.dropped.get .dnsLines + r.passed.length
      rw [List.length_append, List.length_singleton]
      rw [List.length_cons] at hdropped
      omega

/-- What one step preserves. -/
theorem step (h : r.Hands out stats) (e : LogEvent) : (r.step e).Hands out stats := by
  cases e with
  | written data => exact { h with }
  | polled => exact h.poll
  | received => exact h.receive

theorem steps (h : r.Hands out stats) (es : List LogEvent) : (r.steps es).Hands out stats := by
  induction es generalizing r with
  | nil => exact h
  | cons e es ih => exact ih (h.step e)

end Hands

/-- The tailer starts at the end of the log that it finds first, if it finds one. -/
theorem reads_poll {files : LogFiles} (hlog : files.IsLog) (out : Mailbox String) (stats : Stats) :
    (step { files, out, stats } .polled).Reads files.atPath [] [] := by
  refine ⟨hlog, (List.append_nil _).symm, List.prefix_rfl, ?_, ?_⟩
  · rw [textLines_nil]
    rfl
  · cases hcurrent : files.current with
    | none =>
      refine Or.inr ⟨?_, LogFiles.atPath_of_none hcurrent, rfl⟩
      show (⟨true, Tailer.openFile files true⟩ : Tailer) = ⟨true, none⟩
      rw [Tailer.openFile, hcurrent, Option.map_none]
    | some id =>
      refine Or.inl ⟨id, hcurrent, ?_⟩
      show (⟨true, Tailer.openFile files true⟩ : Tailer) = _
      rw [Tailer.openFile, hcurrent, LogFiles.atPath_of_current hcurrent]
      rfl

theorem hands_start (files : LogFiles) (out : Mailbox String) (stats : Stats) :
    Hands { files, out, stats } out stats where
  returned := rfl
  kept := by
    rw [List.nil_append, List.append_nil]
  dropped := by
    show 0 + out.queue.length + stats.dropped.get .dnsLines =
      out.queue.length + stats.dropped.get .dnsLines + 0
    omega

end Relay

/-! ## Whole runs -/

/-- What the tailer has passed on of a log to which something was written since the tailer first looked at it,
and what has become of that. -/
structure Relay.Conveys (r : Relay) (files : LogFiles) (out : Mailbox String) (stats : Stats)
    (written : Bytes) : Prop extends r.Hands out stats where
  atPath : r.files.atPath = files.atPath ++ written
  /-- The lines that were passed on are the complete ones behind the place where the tailer started. -/
  passed : r.passed = textLines (r.files.atPath.drop files.atPath.length)

/-- **Lines do not depend on how bytes arrive.** Whatever stands in the log when the tailer first looks at it,
or if there is no log yet, and into whatever pieces the bytes are cut that are written then: whenever the tailer
looks, each complete line has been passed on once, and in order. -/
theorem passed_as_written (files : LogFiles) (hlog : files.IsLog) (out : Mailbox String)
    (stats : Stats) (es : List LogEvent) :
    let r := Relay.step { files, out, stats } .polled
    (r.passed = [] ∧ r.returned = [0]) ∧
      ((r.steps es).step .polled).Conveys files out stats (writtenIn es) := by
  intro r
  refine ⟨⟨rfl, rfl⟩, ?_⟩
  obtain ⟨seen, hreads⟩ := (Relay.reads_poll hlog out stats).steps es
  have hhands := (((Relay.hands_start files out stats).step .polled).steps es).step .polled
  have hpoll := hreads.poll
  refine { hhands with atPath := hpoll.atPath, passed := ?_ }
  rw [hpoll.passed, hpoll.atPath, List.drop_left, List.nil_append]

/-- A line is cut inside a character and before its line feed, and the mailbox has room for one line only. -/
theorem passed_of_cut_line :
    (oneFile (logText "old\n")).IsLog ∧
      (Relay.steps { files := oneFile (logText "old\n"), out := .empty 1, stats := {} }
        [.polled, .written [99, 97, 102, 0xC3], .polled, .written [0xA9, 13], .polled,
          .written (logText "\nnext\nla"), .polled]).passed = ["café", "next"] := by
  have hlog : (oneFile (logText "old\n")).IsLog := fun id hid => ⟨logText "old\n", by
    obtain rfl := Option.some.inj hid
    rfl⟩
  exact ⟨hlog, ((passed_as_written (oneFile (logText "old\n")) hlog (.empty 1) {}
    [.written [99, 97, 102, 0xC3], .polled, .written [0xA9, 13], .polled,
      .written (logText "\nnext\nla")]).2.passed).trans (by decide +kernel)⟩

end RouterTelemetry.Dns
