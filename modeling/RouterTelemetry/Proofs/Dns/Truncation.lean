import RouterTelemetry.Proofs.Dns.Arrival
/-!
# Whole lines of one version

What the tailer passes on of a log whose files are written to, truncated, moved away, brought back, removed and
created anew, in any order. When a file is truncated one version of it ends, and the next one begins. Main
statements:

* `LogFiles.contentOf_change` : but for truncation, what was written stays;
* `Audit.Sound.step` : what one step preserves;
* `whole_unless_misled` : the tailer passes on whole lines of one version, unless a file was truncated and has
  grown again before the tailer could see that;
* `torn_and_mixed_lines` : what the tailer may pass on otherwise.
-/

namespace RouterTelemetry.Dns

open Text (Bytes)

/-! ## Changes of the files -/

/-- What can be done to the files of a log. -/
inductive LogChange where
  /-- Something is written behind the end of the file at the path, which is created if need be. -/
  | append (data : Bytes)
  /-- The file at the path is truncated, and something is written to it. It is created if need be. -/
  | truncate (data : Bytes)
  /-- What stands at the path is moved to another name. -/
  | rename (name : String)
  /-- What stands under another name is moved to the path. -/
  | restore (name : String)
  /-- Something is written behind the end of a file that was moved. -/
  | appendTo (name : String) (data : Bytes)
  | remove

namespace LogFiles

/-- The files after a change. -/
def change (files : LogFiles) : LogChange → LogFiles
  | .append data => files.append data
  | .truncate data => files.write data
  | .rename name => files.rename name
  | .restore name => files.restore name
  | .appendTo name data => files.appendTo name data
  | .remove => files.remove

/-- The file that is truncated in a change. -/
def truncated? (files : LogFiles) : LogChange → Option Nat
  | .truncate _ => files.current
  | _ => none

variable {files files' : LogFiles}

/-- Where no node changes, what was written stays. -/
theorem contentOf_of_nodes (h : files'.nodes = files.nodes) (id : Nat) :
    files.contentOf id <+: files'.contentOf id := by
  have hsame : files'.contentOf id = files.contentOf id := by
    rw [contentOf, contentOf, node?, node?, h]
  exact hsame ▸ List.prefix_rfl

/-- A new node leaves the others alone. -/
theorem contentOf_of_concat {n : LogNode} (h : files'.nodes = files.nodes ++ [n]) (id : Nat) :
    files.contentOf id <+: files'.contentOf id := by
  by_cases hid : id < files.nodes.length
  · have hsame : files'.contentOf id = files.contentOf id := by
      rw [contentOf, contentOf, node?, node?, h, List.getElem?_append_left hid]
    exact hsame ▸ List.prefix_rfl
  · have hnone : files.contentOf id = [] := by
      rw [contentOf, node?, List.getElem?_eq_none (Nat.not_lt.mp hid)]
    rw [hnone]
    exact List.nil_prefix

/-- A change of one node leaves the others alone. -/
theorem contentOf_alter_of_ne {id other : Nat} (h : other ≠ id) (change : LogNode → LogNode) :
    files.contentOf id <+: (files.alter other change).contentOf id := by
  have hnode : (files.alter other change).node? id = files.node? id := by
    rw [node?, node?, alter]
    exact List.getElem?_modify_ne _ _ h
  have hsame : (files.alter other change).contentOf id = files.contentOf id := by
    rw [contentOf, contentOf, hnode]
  exact hsame ▸ List.prefix_rfl

theorem contentOf_alter_append (id other : Nat) (data : Bytes) :
    files.contentOf id <+: (files.alter other (.append data)).contentOf id := by
  by_cases h : other = id
  · subst h
    rw [contentOf, contentOf, node?_alter]
    rcases files.node? other with _ | ⟨content⟩ | _
    · exact List.prefix_rfl
    · exact List.prefix_append _ _
    · exact List.prefix_rfl
  · exact contentOf_alter_of_ne h _

/-- **But for truncation, what was written stays.** -/
theorem contentOf_change (files : LogFiles) (c : LogChange) {id : Nat}
    (h : files.truncated? c ≠ some id) :
    files.contentOf id <+: (files.change c).contentOf id := by
  cases c with
  | append data =>
    rw [change, append]
    cases files.current with
    | none => exact contentOf_of_concat rfl id
    | some other => exact contentOf_alter_append id other data
  | truncate data =>
    rw [truncated?] at h
    rw [change, write]
    cases hcurrent : files.current with
    | none => exact contentOf_of_concat rfl id
    | some other =>
      exact contentOf_alter_of_ne (fun heq => h (hcurrent.trans (congrArg some heq))) _
  | rename name =>
    refine contentOf_of_nodes ?_ id
    rw [change, rename]
    split <;> rfl
  | restore name =>
    refine contentOf_of_nodes ?_ id
    rw [change, restore]
    split <;> rfl
  | appendTo name data =>
    rw [change, appendTo]
    split
    · next other _ => exact contentOf_alter_append id other data
    · exact contentOf_of_concat rfl id
  | remove => exact contentOf_of_nodes rfl id

end LogFiles

/-! ## Runs -/

/-- What can be read of the file that the tailer has open. -/
def Tailer.present (files : LogFiles) (t : Tailer) : Bytes :=
  match t.file with
  | some f => files.contentOf f.id
  | none => []

/-- The tailer with its files, and what one who knows all that happens to them can say about it. -/
structure Audit where
  watch : Watch
  /-- What the tailer has read of the file that it has open. -/
  read : Bytes := []
  /-- The files that were truncated since the tailer last looked. -/
  truncated : List Nat := []
  /-- The versions that were ended by truncation. -/
  ended : List Bytes := []
  /-- Whether the tailer, since it opened its file, has kept it open although it did not begin with what was
  read of it. -/
  misled : Bool := false

/-- What happens to a log. -/
inductive AuditStep where
  | changed (c : LogChange)
  /-- The tailer looks at the log. -/
  | polled

namespace Audit

/-- The tailer has looked at the log for the first time. -/
def start (files : LogFiles) : Audit :=
  { watch := Watch.poll { files } }

/-- Each version of a file: those that were ended, and what stands in the files now. -/
def versions (a : Audit) : List Bytes :=
  a.ended ++ a.watch.files.nodes.map LogNode.content

/-- Whether the tailer keeps its file open when it looks now. -/
def keeps (a : Audit) : Bool :=
  match a.watch.tailer.file with
  | some f => !Tailer.isReplaced a.watch.files f
  | none => false

/-- The lines that the tailer passes on when it looks now. -/
def lines (a : Audit) : List String :=
  (a.watch.tailer.poll a.watch.files).1

/-- The tailer looks at the log. -/
def poll (a : Audit) : Audit :=
  if a.keeps then
    let present := a.watch.tailer.present a.watch.files
    { a with
      watch := a.watch.poll
      read := a.read ++ present.drop a.read.length
      truncated := []
      misled := a.misled || !decide (a.read <+: present) }
  else
    { a with
      watch := a.watch.poll
      read := a.watch.poll.tailer.present a.watch.files
      truncated := []
      misled := false }

/-- The state after a step. -/
def step (a : Audit) : AuditStep → Audit
  | .changed c =>
    let cut := (a.watch.files.truncated? c).toList
    { a with
      watch := { a.watch with files := a.watch.files.change c }
      truncated := cut ++ a.truncated
      ended := a.ended ++ cut.map a.watch.files.contentOf }
  | .polled => a.poll

/-- The state after some steps. -/
def steps (a : Audit) (ss : List AuditStep) : Audit :=
  ss.foldl step a

/-! ## What is preserved -/

/-- The tailer has no file open, or one that it has read from the start. Unless it was misled or the file was
truncated since, the file begins with what was read of it. -/
def Sound (a : Audit) : Prop :=
  a.watch.tailer = ⟨true, none⟩ ∨
    ∃ id, a.watch.tailer = ⟨true, some (.upTo id 0 a.read)⟩ ∧
      (a.misled = false → id ∉ a.truncated → a.read <+: a.watch.files.contentOf id)

theorem watch_poll (a : Audit) : a.poll.watch = a.watch.poll := by
  rw [poll]
  split <;> rfl

/-- When the tailer opens a file, it reads all of it. -/
theorem poll_of_opens {a : Audit} {id : Nat} {content : Bytes} (hkeeps : a.keeps = false)
    (htailer : a.poll.watch.tailer = ⟨true, some (.upTo id 0 content)⟩) :
    a.poll.read = a.watch.files.contentOf id ∧ a.poll.misled = false := by
  rw [watch_poll] at htailer
  rw [poll, if_neg (by rw [hkeeps]; exact Bool.false_ne_true)]
  refine ⟨?_, rfl⟩
  show a.watch.poll.tailer.present a.watch.files = a.watch.files.contentOf id
  rw [Tailer.present, htailer]
  rfl

/-- When the tailer keeps its file, it reads what is new. -/
theorem poll_of_keeps {a : Audit} {id : Nat} (hkeeps : a.keeps = true)
    (htailer : a.watch.tailer = ⟨true, some (.upTo id 0 a.read)⟩) :
    a.poll.read = a.read ++ (a.watch.files.contentOf id).drop a.read.length ∧
      a.poll.misled = (a.misled || !decide (a.read <+: a.watch.files.contentOf id)) := by
  have hpresent : a.watch.tailer.present a.watch.files = a.watch.files.contentOf id := by
    rw [Tailer.present, htailer]
    rfl
  rw [poll, if_pos hkeeps, hpresent]
  exact ⟨rfl, rfl⟩

/-- What happens when the tailer looks: it finds nothing to open; or it opens what stands at the path, and passes
on all its lines; or it keeps its file open, and passes on the lines that come with what it reads. -/
theorem Sound.poll_cases {a : Audit} (h : a.Sound) :
    (a.keeps = false ∧ a.lines = [] ∧ a.poll.watch.tailer = ⟨true, none⟩) ∨
      (∃ id, a.keeps = false ∧ a.lines = textLines (a.watch.files.contentOf id) ∧
        a.poll.watch.tailer = ⟨true, some (.upTo id 0 (a.watch.files.contentOf id))⟩) ∨
      (∃ id, a.keeps = true ∧ a.watch.tailer = ⟨true, some (.upTo id 0 a.read)⟩ ∧
        textLines a.poll.read = textLines a.read ++ a.lines ∧
        a.poll.watch.tailer = ⟨true, some (.upTo id 0 a.poll.read)⟩) := by
  rw [watch_poll, Watch.poll, lines]
  rcases h with htailer | ⟨id, htailer, -⟩
  · have hkeeps : a.keeps = false := by rw [keeps, htailer]
    rw [htailer]
    cases hcurrent : a.watch.files.current with
    | none =>
      rw [Tailer.poll_of_missing hcurrent]
      exact Or.inl ⟨hkeeps, rfl, rfl⟩
    | some id =>
      rw [Tailer.poll_of_closed hcurrent]
      exact Or.inr (Or.inl ⟨id, hkeeps, rfl, rfl⟩)
  · cases hreplaced : Tailer.isReplaced a.watch.files (.upTo id 0 a.read) with
    | true =>
      have hkeeps : a.keeps = false := by
        rw [keeps, htailer]
        simp [hreplaced]
      cases hcurrent : a.watch.files.current with
      | none => exact absurd hreplaced (by simp [Tailer.isReplaced, hcurrent])
      | some id' =>
        rw [htailer, Tailer.poll_of_replaced hreplaced (Tailer.openFile_of_current hcurrent),
          Tailer.readLines_from_start]
        exact Or.inr (Or.inl ⟨id', hkeeps, rfl, rfl⟩)
    | false =>
      have hkeeps : a.keeps = true := by
        rw [keeps, htailer]
        simp [hreplaced]
      rw [(poll_of_keeps hkeeps htailer).1, htailer, Tailer.poll_of_stays hreplaced,
        Tailer.readLines_eq, Nat.zero_add]
      exact Or.inr (Or.inr ⟨id, hkeeps, rfl, Tailer.textLines_append .., rfl⟩)

namespace Sound

variable {a : Audit}

theorem poll (h : a.Sound) : a.poll.Sound := by
  have hfiles : a.poll.watch.files = a.watch.files := by
    rw [watch_poll]
    rfl
  rcases h.poll_cases with ⟨-, -, htailer⟩ | ⟨id, hkeeps, -, htailer⟩ | ⟨id, hkeeps, hopen, -, htailer⟩
  · exact Or.inl htailer
  · have hread := (poll_of_opens hkeeps htailer).1
    have hall : a.poll.read = a.poll.watch.files.contentOf id := by rw [hread, hfiles]
    exact Or.inr ⟨id, hread ▸ htailer, fun _ _ => hall ▸ List.prefix_rfl⟩
  · obtain ⟨hread, hmisled⟩ := poll_of_keeps hkeeps hopen
    refine Or.inr ⟨id, htailer, fun hclear _ => ?_⟩
    -- the file begins with what was read of it before, so that all of it is read now
    rw [hmisled, Bool.or_eq_false_iff] at hclear
    obtain ⟨rest, hrest⟩ : a.read <+: a.watch.files.contentOf id := by simpa using hclear.2
    have hall : a.poll.read = a.poll.watch.files.contentOf id := by
      rw [hread, hfiles, ← hrest, List.drop_left]
    exact hall ▸ List.prefix_rfl

theorem changed (h : a.Sound) (c : LogChange) : (a.step (.changed c)).Sound := by
  rcases h with htailer | ⟨id, htailer, hread⟩
  · exact Or.inl htailer
  · refine Or.inr ⟨id, htailer, fun hclear hcut => ?_⟩
    obtain ⟨hnow, hbefore⟩ := not_or.mp (mt List.mem_append.mpr hcut)
    have hstays : a.watch.files.truncated? c ≠ some id := fun heq =>
      hnow (by rw [heq]; exact List.mem_singleton_self _)
    exact (hread hclear hbefore).trans (a.watch.files.contentOf_change c hstays)

/-- **What one step preserves.** -/
theorem step (h : a.Sound) (s : AuditStep) : (a.step s).Sound := by
  cases s with
  | changed c => exact h.changed c
  | polled => exact h.poll

/-- What a whole run preserves. -/
theorem steps (h : a.Sound) (ss : List AuditStep) : (a.steps ss).Sound := by
  induction ss generalizing a with
  | nil => exact h
  | cons s ss ih => exact ih (h.step s)

end Sound

/-- The tailer starts to read at the start of a log that is empty or not there yet. -/
theorem sound_start {files : LogFiles} (h : files.atPath = []) : (start files).Sound := by
  cases hcurrent : files.current with
  | none =>
    refine Or.inl ?_
    show (⟨true, Tailer.openFile files true⟩ : Tailer) = ⟨true, none⟩
    rw [Tailer.openFile, hcurrent, Option.map_none]
  | some id =>
    rw [LogFiles.atPath_of_current hcurrent] at h
    refine Or.inr ⟨id, ?_, fun _ _ => List.nil_prefix⟩
    show (⟨true, Tailer.openFile files true⟩ : Tailer) = _
    rw [Tailer.openFile, hcurrent, Option.map_some, h]
    rfl

/-! ## Lines -/

/-- Some lines are the last complete ones of what stands in one file. -/
def EndsWith (a : Audit) (lines : List String) : Prop :=
  ∃ id before, before <+: a.watch.files.contentOf id ∧
    textLines (a.watch.files.contentOf id) = textLines before ++ lines

/-- Such lines are complete lines of a version. -/
theorem EndsWith.exists_mem {a : Audit} {lines : List String} (h : a.EndsWith lines) {line : String}
    (hline : line ∈ lines) : ∃ v ∈ a.versions, line ∈ textLines v := by
  obtain ⟨id, before, -, hlines⟩ := h
  have hmem : line ∈ textLines (a.watch.files.contentOf id) := by
    rw [hlines]
    exact List.mem_append_right _ hline
  refine ⟨_, List.mem_append_right _ ?_, hmem⟩
  -- a file that is not there has no lines
  cases hnode : a.watch.files.nodes[id]? with
  | none =>
    rw [LogFiles.contentOf, LogFiles.node?, hnode, textLines_nil] at hmem
    exact absurd hmem List.not_mem_nil
  | some n =>
    rw [LogFiles.contentOf, LogFiles.node?, hnode]
    exact List.mem_map_of_mem (List.mem_of_getElem? hnode)

/-- A tailer that is not misled passes on whole lines of one version. -/
theorem Sound.endsWith {a : Audit} (h : a.Sound) (hclear : a.poll.misled = false) :
    a.EndsWith a.lines := by
  rcases h.poll_cases with ⟨-, hlines, -⟩ | ⟨id, -, hlines, -⟩ | ⟨id, hkeeps, hopen, hlines, -⟩
  · rw [hlines]
    exact ⟨0, _, List.prefix_rfl, (List.append_nil _).symm⟩
  · rw [hlines]
    refine ⟨id, [], List.nil_prefix, ?_⟩
    rw [textLines_nil, List.nil_append]
  · obtain ⟨hread, hmisled⟩ := poll_of_keeps hkeeps hopen
    rw [hmisled, Bool.or_eq_false_iff] at hclear
    have hbegins : a.read <+: a.watch.files.contentOf id := by simpa using hclear.2
    refine ⟨id, a.read, hbegins, ?_⟩
    obtain ⟨rest, hrest⟩ := hbegins
    rw [← hlines, hread, ← hrest, List.drop_left]

/-- The tailer can only be misled by a file that was truncated since it last looked, after it had read of it,
and that it does not find shorter at the path than what it had read. -/
theorem Sound.of_misled {a : Audit} (h : a.Sound) (hclear : a.misled = false)
    (hmisled : a.poll.misled = true) :
    ∃ f, a.watch.tailer.file = some f ∧ f.id ∈ a.truncated ∧ 0 < f.position ∧
      (a.watch.files.current = none ∨ a.watch.files.current = some f.id ∧
        f.position ≤ (a.watch.files.contentOf f.id).length) := by
  have hkeeps : a.keeps = true := by
    by_contra hopens
    rw [Audit.poll, if_neg hopens] at hmisled
    exact Bool.false_ne_true hmisled
  rcases h with htailer | ⟨id, htailer, hread⟩
  · rw [keeps, htailer] at hkeeps
    exact absurd hkeeps Bool.false_ne_true
  · have hbegins : ¬ a.read <+: a.watch.files.contentOf id := by
      rw [(poll_of_keeps hkeeps htailer).2, hclear] at hmisled
      simpa using hmisled
    refine ⟨.upTo id 0 a.read, by rw [htailer], ?_, ?_, ?_⟩
    · by_contra hcut
      exact hbegins (hread hclear hcut)
    · -- a file of which nothing was read begins with that
      rw [OpenFile.upTo, Nat.zero_add]
      refine List.length_pos_of_ne_nil fun hnil => hbegins ?_
      rw [hnil]
      exact List.nil_prefix
    · rw [keeps, htailer] at hkeeps
      cases hcurrent : a.watch.files.current with
      | none => exact Or.inl rfl
      | some id' =>
        simp only [Tailer.isReplaced, hcurrent, Bool.not_eq_true', Bool.or_eq_false_iff,
          decide_eq_false_iff_not, Nat.not_lt, bne_eq_false_iff_eq] at hkeeps
        obtain ⟨rfl, hlength⟩ := hkeeps
        exact Or.inr ⟨rfl, hlength⟩

end Audit

/-! ## Whole runs -/

/-- **Whole lines of one version.** Whatever is done to the files of a log that is empty or missing when the
tailer first looks at it: whenever the tailer looks, it passes on complete lines of one version of a file,
without a gap, unless it was misled since it opened that file. And it is misled only by a file of which it had
read, that was truncated since it last looked, and that it does not find shorter at the path. -/
theorem whole_unless_misled {files : LogFiles} (hfirst : files.atPath = []) (ss : List AuditStep) :
    let a := (Audit.start files).steps ss
    a.poll.watch.passed = a.watch.passed ++ a.lines ∧
      (a.poll.misled = false →
        a.EndsWith a.lines ∧ ∀ line ∈ a.lines, ∃ v ∈ a.versions, line ∈ textLines v) ∧
      (a.misled = false → a.poll.misled = true →
        ∃ f, a.watch.tailer.file = some f ∧ f.id ∈ a.truncated ∧ 0 < f.position ∧
          (a.watch.files.current = none ∨ a.watch.files.current = some f.id ∧
            f.position ≤ (a.watch.files.contentOf f.id).length)) := by
  intro a
  have hsound : a.Sound := (Audit.sound_start hfirst).steps ss
  refine ⟨?_, fun hclear => ?_, hsound.of_misled⟩
  · rw [Audit.watch_poll]
    rfl
  · have hends := hsound.endsWith hclear
    exact ⟨hends, fun _ => hends.exists_mem⟩

/-- A log that is missing at first is created, and truncated while the start of a line waits for its end. The
tailer finds the file shorter than before. -/
theorem whole_after_truncation :
    let a := (Audit.start {}).steps [.changed (.append (logText "ab\ncd")), .polled,
      .changed (.truncate (logText "x\n"))]
    ({} : LogFiles).atPath = [] ∧ a.poll.misled = false ∧ a.lines = ["x"] ∧
      ∃ v ∈ a.versions, "x" ∈ textLines v := by
  intro a
  have hmissing : ({} : LogFiles).atPath = [] := rfl
  have hclear : a.poll.misled = false := by decide +kernel
  have hlines : a.lines = ["x"] := by decide +kernel
  have hwhole := (whole_unless_misled hmissing [.changed (.append (logText "ab\ncd")), .polled,
    .changed (.truncate (logText "x\n"))]).2.1 hclear
  exact ⟨hmissing, hclear, hlines, hwhole.2 "x" (hlines ▸ List.mem_singleton_self _)⟩

/-- Where a file that was truncated has grown again before the tailer looks, a line may be passed on that is in
no version of the file: the start of an old line with the end of a new one, or the end of a new line alone. -/
theorem torn_and_mixed_lines :
    let mixed := (Audit.start (oneFile [])).steps [.changed (.append (logText "abc")), .polled,
      .changed (.truncate (logText "wxydef\n")), .polled]
    let torn := (Audit.start (oneFile [])).steps [.changed (.append (logText "ab\n")), .polled,
      .changed (.truncate (logText "cdefgh\n")), .polled]
    (mixed.watch.passed = ["abcdef"] ∧ mixed.versions = [logText "abc", logText "wxydef\n"] ∧
        ∀ v ∈ mixed.versions, "abcdef" ∉ textLines v) ∧
      torn.watch.passed = ["ab", "fgh"] ∧ torn.versions = [logText "ab\n", logText "cdefgh\n"] ∧
        ∀ v ∈ torn.versions, "fgh" ∉ textLines v := by
  decide +kernel

end RouterTelemetry.Dns
