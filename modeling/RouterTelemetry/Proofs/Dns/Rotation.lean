import Mathlib.Data.List.Forall2
import RouterTelemetry.Proofs.Dns.Lines
/-!
# Following a log that is rotated

What the tailer passes on when the log is written to, moved away to make way for a new file, and looked at from
time to time, in any order. Each file that stands at the path is a volume of its own. Main statements:

* `Watch.Follows.step` : what one step preserves;
* `Watch.passed_steps` : what is passed on in a whole run, volume by volume;
* `passed_across_rotations` : each line is passed on once, and in order, unless it was written after the tailer
  had last looked at the path.
-/

namespace RouterTelemetry.Dns

open Text (Bytes)

/-! ## Runs -/

/-- The tailer with the files that it follows, and the lines that it has passed on so far. -/
structure Watch where
  files : LogFiles
  tailer : Tailer := {}
  passed : List String := []

/-- The tailer looks at the log. -/
def Watch.poll (w : Watch) : Watch :=
  { w with
    tailer := (w.tailer.poll w.files).2
    passed := w.passed ++ (w.tailer.poll w.files).1 }

/-- What happens to a log that is rotated. -/
inductive LogStep where
  /-- Something is written behind the end of the file at the path. -/
  | append (data : Bytes)
  /-- The file at the path is moved to another name, and a new one takes its place. -/
  | rotate (name : String)
  /-- The tailer looks at the log. -/
  | poll

namespace Watch

/-- The files and the tailer after a step. -/
def step (w : Watch) : LogStep → Watch
  | .append data => { w with files := w.files.append data }
  | .rotate name => { w with files := (w.files.rename name).create (.file []) }
  | .poll => w.poll

/-- The files and the tailer after some steps. -/
def steps (w : Watch) (ss : List LogStep) : Watch :=
  ss.foldl step w

end Watch

/-! ## Volumes -/

/-- What is written to one file while it stands at the path, and how much of that was there when the tailer
last looked at the path. -/
structure Volume where
  written : Bytes := []
  seen : Bytes := []
deriving DecidableEq, Repr

/-- The volumes of a log, in the order in which they stand at the path. -/
structure Volumes where
  older : List Volume := []
  current : Volume := {}
deriving DecidableEq, Repr

namespace Volumes

/-- All volumes, the oldest one first. -/
def all (v : Volumes) : List Volume :=
  v.older ++ [v.current]

/-- The volumes after a step. -/
def step (v : Volumes) : LogStep → Volumes
  | .append data => { v with current := { v.current with written := v.current.written ++ data } }
  | .rotate _ => { older := v.all }
  | .poll => { v with current := { v.current with seen := v.current.written } }

/-- The volumes after some steps. -/
def steps (v : Volumes) (ss : List LogStep) : Volumes :=
  ss.foldl step v

/-- When the tailer looks, it sees all that was written to the file at the path. -/
theorem seen_current_steps (v : Volumes) (ss : List LogStep) :
    (v.steps (ss ++ [.poll])).current.seen = (v.steps (ss ++ [.poll])).current.written := by
  rw [steps, List.foldl_append]
  rfl

/-- The complete lines of all volumes. -/
def writtenLines (v : Volumes) : List String :=
  (v.all.map fun x => textLines x.written).flatten

/-- The complete lines that the tailer has seen. -/
def seenLines (v : Volumes) : List String :=
  (v.all.map fun x => textLines x.seen).flatten

theorem seenLines_eq (v : Volumes) :
    v.seenLines = (v.older.map fun x => textLines x.seen).flatten ++ textLines v.current.seen := by
  rw [seenLines, all, List.map_append, List.flatten_append, List.map_singleton,
    List.flatten_singleton]

end Volumes

/-! ## Reading a file -/

/-- What a change makes of a node. -/
theorem LogFiles.node?_alter (files : LogFiles) (id : Nat) (change : LogNode → LogNode) :
    (files.alter id change).node? id = (files.node? id).map change := by
  rw [node?, node?, alter, List.getElem?_modify_eq]
  rfl

theorem LogFiles.contentOf_eq {files : LogFiles} {id : Nat} {content : Bytes}
    (h : files.node? id = some (.file content)) : files.contentOf id = content := by
  rw [contentOf, h]
  rfl

/-- A file that was read as far as `seen`, behind its first `start` bytes. -/
def OpenFile.upTo (id start : Nat) (seen : Bytes) : OpenFile :=
  ⟨id, start + seen.length, (Tailer.splitLines [] seen).2⟩

namespace Tailer

variable {files : LogFiles} {id : Nat} {base seen rest : Bytes}

/-- What is read of a file depends on how far it was read, and on the line whose end is to come. -/
theorem readLines_eq (start : Nat) :
    readLines files (.upTo id start seen) =
      ((splitLines (splitLines [] seen).2
          ((files.contentOf id).drop (start + seen.length))).1.map lineText,
        .upTo id start (seen ++ (files.contentOf id).drop (start + seen.length))) := by
  simp only [readLines, OpenFile.upTo, splitLines_append [] seen, List.length_append, Nat.add_assoc]

/-- A file is read on from where it was read to. -/
theorem readLines_upTo (h : files.contentOf id = base ++ (seen ++ rest)) :
    readLines files (.upTo id base.length seen) =
      ((splitLines (splitLines [] seen).2 rest).1.map lineText,
        .upTo id base.length (seen ++ rest)) := by
  have hnew : (files.contentOf id).drop (base.length + seen.length) = rest := by
    rw [h, ← List.append_assoc, ← List.length_append, List.drop_left]
  rw [readLines_eq, hnew]

/-- A file that stays open is read on. -/
theorem poll_of_stays {f : OpenFile} (h : isReplaced files f = false) :
    poll files ⟨true, some f⟩ =
      ((readLines files f).1, ⟨true, some (readLines files f).2⟩) := by
  simp [poll, h]

/-- A file that is opened anew is read from its start. -/
theorem poll_of_replaced {f g : OpenFile} (h : isReplaced files f = true)
    (hopen : openFile files false = some g) :
    poll files ⟨true, some f⟩ =
      ((readLines files g).1, ⟨true, some (readLines files g).2⟩) := by
  simp [poll, h, hopen]

/-- The file at the path that is open is read on. -/
theorem poll_upTo (hcurrent : files.current = some id)
    (h : files.contentOf id = base ++ (seen ++ rest)) :
    poll files ⟨true, some (.upTo id base.length seen)⟩ =
      ((splitLines (splitLines [] seen).2 rest).1.map lineText,
        ⟨true, some (.upTo id base.length (seen ++ rest))⟩) := by
  have hstays : isReplaced files (.upTo id base.length seen) = false := by
    simp [isReplaced, hcurrent, h, OpenFile.upTo, ← Nat.add_assoc]
  rw [poll_of_stays hstays, readLines_upTo h]

/-- What stands at the path is opened at its start. -/
theorem openFile_of_current (hcurrent : files.current = some id) :
    openFile files false = some (.upTo id 0 []) := by
  rw [openFile, hcurrent]
  rfl

/-- A file that is read from its start gives all its lines. -/
theorem readLines_from_start :
    readLines files (.upTo id 0 []) =
      (textLines (files.contentOf id), .upTo id 0 (files.contentOf id)) := by
  have hread : readLines files (.upTo id 0 []) =
      ((splitLines [] (files.contentOf id)).1.map lineText, .upTo id 0 (files.contentOf id)) :=
    readLines_upTo (Eq.refl ([] ++ ([] ++ files.contentOf id)))
  rw [hread, fst_splitLines List.not_mem_nil]
  rfl

/-- A file at the path that is not the open one is read from its start. -/
theorem poll_of_ne {f : OpenFile} (hcurrent : files.current = some id) (hne : f.id ≠ id) :
    poll files ⟨true, some f⟩ =
      (textLines (files.contentOf id), ⟨true, some (.upTo id 0 (files.contentOf id))⟩) := by
  have hreplaced : isReplaced files f = true := by
    simp [isReplaced, hcurrent, Ne.symm hne]
  rw [poll_of_replaced hreplaced (openFile_of_current hcurrent), readLines_from_start]

end Tailer

/-! ## What is preserved -/

namespace Watch

/-- What a run has made of the files, the tailer and the lines that were passed on. Of the file at the path
the tailer has read what it has seen there; or it still has another file open, and has seen nothing of the one
at the path. -/
structure Follows (w : Watch) (v : Volumes) : Prop where
  passed : w.passed = v.seenLines
  seen : ∀ x ∈ v.all, x.seen <+: x.written
  stands : ∃ id base f, w.files.current = some id ∧
    w.files.node? id = some (.file (base ++ v.current.written)) ∧
    w.tailer = ⟨true, some f⟩ ∧ f.id < w.files.nodes.length ∧
    (f = .upTo id base.length v.current.seen ∨ (f.id ≠ id ∧ base = [] ∧ v.current.seen = []))

namespace Follows

variable {w : Watch} {v : Volumes}

theorem seen_current (h : w.Follows v) : v.current.seen <+: v.current.written :=
  h.seen _ (List.mem_append_right _ (List.mem_singleton_self _))

theorem append (h : w.Follows v) (data : Bytes) :
    (w.step (.append data)).Follows (v.step (.append data)) := by
  obtain ⟨id, base, f, hcurrent, hnode, htailer, hf, hread⟩ := h.stands
  have hfiles : w.files.append data = w.files.alter id (.append data) := by
    rw [LogFiles.append, hcurrent]
  refine ⟨h.passed.trans ?_, ?_, id, base, f, ?_, ?_, htailer, ?_, hread⟩
  · rw [Volumes.seenLines_eq, Volumes.seenLines_eq]
    rfl
  · intro x hx
    rcases List.mem_append.mp hx with hx | hx
    · exact h.seen x (List.mem_append_left _ hx)
    · obtain rfl := List.mem_singleton.mp hx
      exact h.seen_current.trans (List.prefix_append _ _)
  · rw [step, hfiles]
    exact hcurrent
  · rw [step, hfiles, LogFiles.node?_alter, hnode, Volumes.step, ← List.append_assoc]
    rfl
  · rw [step, hfiles, LogFiles.alter, List.length_modify]
    exact hf

theorem rotate (h : w.Follows v) (name : String) :
    (w.step (.rotate name)).Follows (v.step (.rotate name)) := by
  obtain ⟨id, base, f, hcurrent, hnode, htailer, hf, hread⟩ := h.stands
  have hnodes : (w.files.rename name).nodes = w.files.nodes := by
    rw [LogFiles.rename, hcurrent]
  -- the new file has an identity that no file had before
  refine ⟨h.passed.trans ?_, ?_, w.files.nodes.length, [], f, ?_, ?_, htailer, ?_,
    Or.inr ⟨Nat.ne_of_lt hf, rfl, rfl⟩⟩
  · rw [Volumes.seenLines_eq (v.step _), Volumes.step, textLines_nil, List.append_nil]
    rfl
  · intro x hx
    rcases List.mem_append.mp hx with hx | hx
    · exact h.seen x hx
    · obtain rfl := List.mem_singleton.mp hx
      exact List.prefix_rfl
  · rw [step, LogFiles.create, hnodes]
  · rw [step, LogFiles.node?, LogFiles.create, hnodes, List.getElem?_concat_length]
    rfl
  · rw [step, LogFiles.create, hnodes, List.length_append]
    exact Nat.lt_succ_of_lt hf

theorem poll (h : w.Follows v) : w.poll.Follows (v.step .poll) := by
  obtain ⟨id, base, f, hcurrent, hnode, htailer, hf, hread⟩ := h.stands
  obtain ⟨rest, hrest⟩ := h.seen_current
  have hcontent := LogFiles.contentOf_eq hnode
  -- what is passed on are the lines of the current volume that were not passed on yet
  have hpoll : ∃ lines, w.tailer.poll w.files =
      (lines, ⟨true, some (.upTo id base.length v.current.written)⟩) ∧
        textLines v.current.seen ++ lines = textLines v.current.written := by
    rcases hread with rfl | ⟨hne, rfl, hseen⟩
    · rw [htailer, ← hrest]
      exact ⟨_, Tailer.poll_upTo hcurrent (by rw [hcontent, hrest]), (Tailer.textLines_append ..).symm⟩
    · rw [htailer, Tailer.poll_of_ne hcurrent hne, hcontent, hseen]
      exact ⟨_, rfl, rfl⟩
  obtain ⟨lines, hpoll, hlines⟩ := hpoll
  refine ⟨?_, ?_, id, base, _, hcurrent, hnode, ?_, ?_, Or.inl rfl⟩
  · rw [Watch.poll, hpoll, h.passed, Volumes.seenLines_eq, Volumes.seenLines_eq, List.append_assoc,
      hlines]
    rfl
  · intro x hx
    rcases List.mem_append.mp hx with hx | hx
    · exact h.seen x (List.mem_append_left _ hx)
    · obtain rfl := List.mem_singleton.mp hx
      exact List.prefix_rfl
  · rw [Watch.poll, hpoll]
    rfl
  · exact (List.getElem?_eq_some_iff.mp hnode).1

/-- **What one step preserves.** -/
theorem step (h : w.Follows v) (s : LogStep) : (w.step s).Follows (v.step s) := by
  cases s with
  | append data => exact h.append data
  | rotate name => exact h.rotate name
  | poll => exact h.poll

/-- What a whole run preserves. -/
theorem steps (h : w.Follows v) (ss : List LogStep) : (w.steps ss).Follows (v.steps ss) := by
  induction ss generalizing w v with
  | nil => exact h
  | cons s ss ih => exact ih (h.step s)

end Follows

/-- The tailer starts at the end of the file that it finds first. -/
theorem follows_poll {files : LogFiles} {id : Nat} {content : Bytes}
    (hcurrent : files.current = some id) (hfile : files.node? id = some (.file content)) :
    (poll { files := files }).Follows {} := by
  have hopen : Tailer.openFile files true = some (.upTo id content.length []) := by
    rw [Tailer.openFile, hcurrent, Option.map_some, LogFiles.contentOf_eq hfile]
    rfl
  refine ⟨?_, ?_, id, content, _, hcurrent, ?_, ?_, (List.getElem?_eq_some_iff.mp hfile).1,
    Or.inl rfl⟩
  · rw [Volumes.seenLines_eq, textLines_nil]
    rfl
  · intro x hx
    obtain rfl := List.mem_singleton.mp hx
    exact List.prefix_rfl
  · exact hfile.trans (by rw [List.append_nil])
  · show (⟨true, Tailer.openFile files true⟩ : Tailer) = _
    rw [hopen]

end Watch

/-! ## Whole runs -/

/-- What is passed on in a run are the lines that the tailer has seen, volume by volume. -/
theorem Watch.passed_steps {files : LogFiles} {id : Nat} {content : Bytes}
    (hcurrent : files.current = some id) (hfile : files.node? id = some (.file content))
    (ss : List LogStep) :
    (steps { files := files } (.poll :: ss)).passed = (Volumes.steps {} ss).seenLines :=
  ((follows_poll hcurrent hfile).steps ss).passed

/-- What may be passed on of a volume: as many of its complete lines as the tailer has seen, or more, from the
first one on and without a gap. -/
def Volume.Allows (x : Volume) (lines : List String) : Prop :=
  textLines x.seen <+: lines ∧ lines <+: textLines x.written

/-- Of a volume that the tailer has seen all of, each complete line is passed on once. -/
theorem Volume.Allows.eq {x : Volume} {lines : List String} (h : x.Allows lines)
    (hseen : x.seen = x.written) : lines = textLines x.written := by
  obtain ⟨hleast, hmost⟩ := h
  rw [hseen] at hleast
  exact hmost.eq_of_length_le hleast.length_le

/-- What may be passed on of a log: for one volume after the other, what may be passed on of it. -/
def Volumes.Allows (v : Volumes) (passed : List String) : Prop :=
  ∃ taken : List (List String), passed = taken.flatten ∧ List.Forall₂ Volume.Allows v.all taken

/-- Of a log that the tailer has seen all of, each complete line is passed on once. -/
theorem Volumes.Allows.eq {v : Volumes} {passed : List String} (h : v.Allows passed)
    (hseen : ∀ x ∈ v.all, x.seen = x.written) : passed = v.writtenLines := by
  obtain ⟨taken, rfl, hall⟩ := h
  refine congrArg List.flatten ?_
  generalize v.all = xs at hall hseen
  induction hall with
  | nil => rfl
  | cons hx hall ih =>
    rw [List.map_cons, hx.eq (hseen _ (List.mem_cons_self ..)),
      ih fun x hmem => hseen x (List.mem_cons_of_mem _ hmem)]

/-- **Each line is passed on once, and in order**, those of an older file before those of a newer one, whatever
is written and however often the log is rotated. Only lines at the end of a file may be missing, and only if
they were not there yet when the tailer last looked at the path while that file stood there. -/
theorem passed_across_rotations (files : LogFiles) {id : Nat} {content : Bytes}
    (hcurrent : files.current = some id) (hfile : files.node? id = some (.file content))
    (ss : List LogStep) :
    let v := Volumes.steps {} (ss ++ [.poll])
    let passed := (Watch.steps { files := files } (.poll :: (ss ++ [.poll]))).passed
    v.Allows passed ∧ v.current.seen = v.current.written ∧
      ((∀ x ∈ v.older, x.seen = x.written) → passed = v.writtenLines) := by
  intro v passed
  have hfollows := (Watch.follows_poll hcurrent hfile).steps (ss ++ [.poll])
  have hallows : v.Allows passed := by
    refine ⟨v.all.map fun x : Volume => textLines x.seen, Watch.passed_steps hcurrent hfile _, ?_⟩
    rw [List.forall₂_map_right_iff, List.forall₂_same]
    exact fun x hx => ⟨List.prefix_rfl, textLines_prefix (hfollows.seen x hx)⟩
  have hlast : v.current.seen = v.current.written := Volumes.seen_current_steps {} ss
  refine ⟨hallows, hlast, fun holder => hallows.eq fun x hx => ?_⟩
  rcases List.mem_append.mp hx with hx | hx
  · exact holder x hx
  · rwa [List.mem_singleton.mp hx]

/-- A log of one file. -/
def oneFile (content : Bytes) : LogFiles :=
  { nodes := [.file content], current := some 0 }

/-- The text of a log as bytes. -/
def logText (s : String) : Bytes :=
  Text.encodeUtf8 s.toList

/-- A log is rotated after the tailer has seen its last line. -/
theorem passed_of_one_rotation :
    (oneFile (logText "old\n")).current = some 0 ∧
      (oneFile (logText "old\n")).node? 0 = some (.file (logText "old\n")) ∧
      (Watch.steps { files := oneFile (logText "old\n") }
        [.poll, .append (logText "a\nb"), .append (logText "c\n"), .poll, .rotate "log.1",
          .append (logText "d\n"), .poll]).passed = ["a", "bc", "d"] :=
  ⟨rfl, rfl, ((passed_across_rotations (oneFile (logText "old\n")) rfl rfl
    [.append (logText "a\nb"), .append (logText "c\n"), .poll, .rotate "log.1",
      .append (logText "d\n")]).2.2 (by decide +kernel)).trans (by decide +kernel)⟩

/-- Lines that come after the tailer has last looked at a file are not passed on: neither the last line of a
file that is rotated away, nor any line of a file that has come and gone since. -/
theorem late_lines_not_passed :
    let ss : List LogStep := [.append (logText "late\n"), .rotate "log.1", .append (logText "short\n"),
      .rotate "log.2", .poll]
    (Volumes.steps {} ss).writtenLines = ["late", "short"] ∧
      (Watch.steps { files := oneFile [] } (.poll :: ss)).passed = [] := by
  decide +kernel

end RouterTelemetry.Dns
