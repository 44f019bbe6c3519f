import RouterTelemetry.Proofs.Text.Digits
import RouterTelemetry.Spool.Directory
/-!
# Names of batches

The name of a batch is a fixed text around the digits of a number. Main statements:

* `batchName_injective` : different numbers give different names;
* `batchName_lt_batchName` : below `10 ^ 20` the byte order of names is the order of the numbers;
* `isBatchName_batchName`, `isBatchName_temporary` : a listing shows the batches and leaves out what is
  still being written.
-/

namespace RouterTelemetry.Spool

open Text (Bytes encodeUtf8)
open Time.Instant (padded)

/-- The order in which a directory is listed is the lexicographic order of names. -/
theorem Name.le_iff (a b : Name) : Name.le a b = true ↔ a ≤ b := by
  induction a generalizing b with
  | nil => simp [Name.le]
  | cons x a ih =>
    cases b with
    | nil => simp [Name.le]
    | cons y b => simp [Name.le, ih, List.cons_le_cons_iff]

/-- Different numbers give different names. -/
theorem batchName_injective {a b : Nat} (h : batchName a = batchName b) : a = b := by
  rw [batchName, batchName] at h
  exact Text.encodeUtf8_padded_injective (List.append_cancel_left (List.append_cancel_right h))

/-- As long as twenty digits are enough, later numbers give later names. -/
theorem batchName_lt_batchName {a b : Nat} (hab : a < b) (hb : b < 10 ^ 20) :
    batchName a < batchName b := by
  have length (n : Nat) (hn : n < 10 ^ 20) : (encodeUtf8 (padded 20 n)).length = 20 := by
    rw [Text.encodeUtf8_padded, List.length_map, Text.length_padded (by decide) hn]
  rw [batchName, batchName]
  refine Text.append_lt_append_of_lt _ _ ?_
    (List.append_left_lt (Text.encodeUtf8_padded_lt (by decide) hab hb))
  rw [List.length_append, List.length_append, length a (by omega), length b hb]

/-- The name of a batch is text. -/
theorem toNat_lt_of_mem_batchName {n : Nat} : ∀ b ∈ batchName n, b.toNat < 128 := by
  have hprefix : batchPrefix.all (fun b => b.toNat < 128) = true := by decide
  have hsuffix : batchSuffix.all (fun b => b.toNat < 128) = true := by decide
  intro b hb
  rw [batchName, List.mem_append, List.mem_append] at hb
  rcases hb with (h | h) | h
  · exact of_decide_eq_true (List.all_eq_true.mp hprefix b h)
  · exact Text.toNat_lt_of_mem_encodeUtf8
      (fun _ hc => Text.toNat_lt_of_isDigit (Text.isDigit_of_mem_padded hc)) b h
  · exact of_decide_eq_true (List.all_eq_true.mp hsuffix b h)

/-- A listing shows the batches. -/
@[simp]
theorem isBatchName_batchName (n : Nat) : isBatchName (batchName n) = true := by
  have hfront : batchPrefix.isPrefixOf (batchName n) = true := by
    rw [List.isPrefixOf_iff_prefix, batchName, List.append_assoc]
    exact List.prefix_append _ _
  have hback : batchSuffix.isSuffixOf (batchName n) = true := by
    rw [List.isSuffixOf_iff_suffix, batchName]
    exact List.suffix_append _ _
  rw [isBatchName, Text.decodeUtf8?_of_ascii toNat_lt_of_mem_batchName, hfront, hback]
  rfl

/-- A listing leaves out what is still being written. -/
@[simp]
theorem isBatchName_temporary (n : Name) : isBatchName (n ++ temporarySuffix) = false := by
  have hback : batchSuffix.isSuffixOf (n ++ temporarySuffix) = false := by
    rw [Bool.eq_false_iff, ne_eq, List.isSuffixOf_iff_suffix]
    rintro ⟨t, ht⟩
    -- the two endings differ in their last byte
    have hn : batchSuffix.getLast? = some 110 := by decide
    have hp : temporarySuffix.getLast? = some 112 := by decide
    have hlast := congrArg List.getLast? ht
    rw [List.getLast?_append, List.getLast?_append, hn, hp] at hlast
    simp at hlast
  rw [isBatchName, hback, Bool.and_false]

/-- What is still being written never has the name of a batch. -/
theorem temporary_ne_batchName (n : Name) (k : Nat) : n ++ temporarySuffix ≠ batchName k := by
  intro h
  have := isBatchName_temporary n
  rw [h, isBatchName_batchName] at this
  exact Bool.noConfusion this

end RouterTelemetry.Spool
