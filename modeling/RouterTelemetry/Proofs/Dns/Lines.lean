import RouterTelemetry.Dns.Tailer
/-!
# Lines in bytes

What it means that bytes are cut into lines: at each line feed a line ends. Main statements:

* `Tailer.fst_splitLines` : the lines that the tailer finds are the complete ones;
* `Tailer.splitLines_append` : the lines can be found in one part of the bytes after the other.
-/

namespace RouterTelemetry.Dns

open Text (Bytes)

/-- The lines of some bytes that are complete, each with its line feed. -/
def completeLines (bytes : Bytes) : List Bytes :=
  (bytes.splitOn 10).dropLast.map (· ++ [10])

/-- The texts of the lines that are complete. -/
def textLines (bytes : Bytes) : List String :=
  (completeLines bytes).map Tailer.lineText

/-- Bytes without a line feed complete no line. -/
theorem completeLines_of_not_mem {bytes : Bytes} (h : 10 ∉ bytes) : completeLines bytes = [] := by
  rw [completeLines, List.splitOn_eq_singleton h]
  rfl

@[simp]
theorem textLines_nil : textLines [] = [] := by
  rw [textLines, completeLines_of_not_mem List.not_mem_nil]
  rfl

/-- The first line feed ends the first line. -/
theorem completeLines_append_cons {line : Bytes} (h : 10 ∉ line) (bytes : Bytes) :
    completeLines (line ++ 10 :: bytes) = (line ++ [10]) :: completeLines bytes := by
  rw [completeLines, List.splitOn_append_cons_self_of_not_mem h,
    List.dropLast_cons_of_ne_nil (List.splitOn_ne_nil _ _), List.map_cons]
  rfl

namespace Tailer

/-- The lines that are found first stay, whatever comes after them. -/
theorem foldl_splitStep (done : List Bytes) (last bytes : Bytes) :
    bytes.foldl splitStep (done, last) =
      ((bytes.foldl splitStep ([], last)).1 ++ done, (bytes.foldl splitStep ([], last)).2) := by
  induction bytes generalizing done last with
  | nil => rfl
  | cons b bytes ih =>
    simp only [List.foldl_cons, splitStep]
    by_cases hb : b = 10
    · simp only [if_pos hb]
      rw [ih, ih [(b :: last).reverse], List.append_assoc, List.singleton_append]
    · simp only [if_neg hb]
      exact ih done (b :: last)

theorem splitLines_nil (unfinished : Bytes) : splitLines unfinished [] = ([], unfinished) := by
  rw [splitLines, List.foldl_nil]
  simp

/-- Lines can be found in one part of the bytes after the other. -/
theorem splitLines_append (unfinished a b : Bytes) :
    splitLines unfinished (a ++ b) =
      ((splitLines unfinished a).1 ++ (splitLines (splitLines unfinished a).2 b).1,
        (splitLines (splitLines unfinished a).2 b).2) := by
  unfold splitLines
  rw [List.foldl_append, foldl_splitStep]
  simp

theorem splitLines_singleton (unfinished : Bytes) (b : UInt8) :
    splitLines unfinished [b] =
      if b = 10 then ([unfinished ++ [b]], []) else ([], unfinished ++ [b]) := by
  by_cases hb : b = 10 <;> simp [splitLines, splitStep, hb]

/-- **The lines that the tailer finds are the complete ones.** -/
theorem fst_splitLines {unfinished : Bytes} (h : 10 ∉ unfinished) (bytes : Bytes) :
    (splitLines unfinished bytes).1 = completeLines (unfinished ++ bytes) := by
  induction bytes generalizing unfinished with
  | nil => rw [splitLines_nil, List.append_nil, completeLines_of_not_mem h]
  | cons b bytes ih =>
    rw [← List.singleton_append, splitLines_append, splitLines_singleton]
    by_cases hb : b = 10
    · subst hb
      rw [if_pos rfl, ih List.not_mem_nil, List.nil_append, List.singleton_append,
        List.singleton_append, completeLines_append_cons h]
    · rw [if_neg hb, ih (by simpa [h] using Ne.symm hb), List.nil_append, List.append_assoc]

/-- The texts of the lines that are found with some more bytes. -/
theorem textLines_append (a b : Bytes) :
    textLines (a ++ b) =
      textLines a ++ ((splitLines (splitLines [] a).2 b).1).map lineText := by
  have hsplit := congrArg Prod.fst (splitLines_append [] a b)
  rw [fst_splitLines List.not_mem_nil, fst_splitLines List.not_mem_nil] at hsplit
  rw [textLines, textLines, ← List.nil_append (a ++ b), hsplit, List.map_append, List.nil_append]

end Tailer

/-- With more bytes at the end the lines that were complete stay. -/
theorem textLines_prefix {a b : Bytes} (h : a <+: b) : textLines a <+: textLines b := by
  obtain ⟨rest, rfl⟩ := h
  rw [Tailer.textLines_append]
  exact List.prefix_append _ _

end RouterTelemetry.Dns
