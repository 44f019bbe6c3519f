import RouterTelemetry.Proofs.Text.Trim
/-!
# Words

How a text falls into words: a word and the blanks behind it are taken off its front. Main statements:

* `words_append` : the words of a text that begins with a word;
* `normalizeBlanks_append` : three words, with whatever blanks between them, are written with one blank each.
-/

namespace RouterTelemetry.Text

/-- A word of its own: there is no blank in it. -/
structure Unbroken (w : List Char) : Prop where
  ne_nil : w ≠ []
  solid : ∀ c ∈ w, isBlank c = false

/-- The blanks in front of a word are what is trimmed. -/
theorem Unbroken.trimStart_append {w : List Char} (hw : Unbroken w) {b : List Char} (hb : ∀ c ∈ b, isBlank c = true)
    (rest : List Char) : trimStart (b ++ (w ++ rest)) = w ++ rest := by
  rw [trimStart, List.dropWhile_append_of_pos hb]
  refine dropWhile_eq_self fun c hc => hw.solid c ?_
  rw [List.head?_append_of_ne_nil _ hw.ne_nil] at hc
  exact List.mem_of_mem_head? hc

/-- What may stand between two words. -/
structure Gap (b : List Char) : Prop where
  ne_nil : b ≠ []
  blank : ∀ c ∈ b, isBlank c = true

theorem gap_blank : Gap [' '] := by
  refine ⟨by simp, fun c hc => ?_⟩
  rw [List.mem_singleton.mp hc]
  rfl

/-- A word in hand grows by the characters that are no blanks. -/
theorem foldl_wordsStep_word {w : List Char} (hw : ∀ c ∈ w, isBlank c = false) (done : List (List Char))
    (last : List Char) : w.foldl wordsStep (done, last) = (done, w.reverse ++ last) := by
  induction w generalizing last with
  | nil => rfl
  | cons c w ih =>
    have hc : isBlank c = false := hw c (List.mem_cons_self ..)
    have hstep : wordsStep (done, last) c = (done, c :: last) := by
      simp only [wordsStep, hc, Bool.false_eq_true, if_false]
    rw [List.foldl_cons, hstep, ih fun d hd => hw d (List.mem_cons_of_mem c hd), List.reverse_cons, List.append_assoc]
    rfl

/-- Blanks end the word in hand, if there is any. -/
theorem foldl_wordsStep_blanks {b : List Char} (hb : ∀ c ∈ b, isBlank c = true) (hne : b ≠ [])
    (done : List (List Char)) (last : List Char) :
    b.foldl wordsStep (done, last) = (if last.isEmpty then done else last.reverse :: done, []) := by
  induction b generalizing done last with
  | nil => exact absurd rfl hne
  | cons c b ih =>
    have hc : isBlank c = true := hb c (List.mem_cons_self ..)
    have hstep : wordsStep (done, last) c = (if last.isEmpty then done else last.reverse :: done, []) := by
      simp only [wordsStep, hc, if_true]
    rw [List.foldl_cons, hstep]
    by_cases hnil : b = []
    · rw [hnil]
      rfl
    · exact ih (fun d hd => hb d (List.mem_cons_of_mem c hd)) hnil _ []

/-- The words that are done stay as they are. -/
theorem foldl_wordsStep_done (s : List Char) (done base : List (List Char)) (last : List Char) :
    s.foldl wordsStep (done ++ base, last) =
      ((s.foldl wordsStep (done, last)).1 ++ base, (s.foldl wordsStep (done, last)).2) := by
  induction s generalizing done last with
  | nil => rfl
  | cons c s ih =>
    have hstep : wordsStep (done ++ base, last) c =
        ((wordsStep (done, last) c).1 ++ base, (wordsStep (done, last) c).2) := by
      unfold wordsStep
      split
      · split <;> rfl
      · rfl
    rw [List.foldl_cons, List.foldl_cons, hstep]
    exact ih _ _

theorem words_of_unbroken {w : List Char} (hw : Unbroken w) : words w = [w] := by
  have hrev : ¬w.reverse.isEmpty = true := by simpa using hw.ne_nil
  simp only [words, foldl_wordsStep_word hw.solid, List.append_nil, if_neg hrev, List.reverse_reverse,
    List.reverse_cons, List.reverse_nil, List.nil_append]

/-- **The words of a text that begins with a word** are that word and the words of what follows the blanks. -/
theorem words_append {w b : List Char} (hw : Unbroken w) (hb : Gap b) (s : List Char) :
    words (w ++ (b ++ s)) = w :: words s := by
  have hrev : ¬w.reverse.isEmpty = true := by simpa using hw.ne_nil
  have hfold : (w ++ (b ++ s)).foldl wordsStep ([], []) =
      ((s.foldl wordsStep ([], [])).1 ++ [w], (s.foldl wordsStep ([], [])).2) := by
    rw [List.foldl_append, List.foldl_append, foldl_wordsStep_word hw.solid,
      foldl_wordsStep_blanks hb.blank hb.ne_nil, List.append_nil, if_neg hrev, List.reverse_reverse]
    exact foldl_wordsStep_done s [] [w] []
  unfold words
  rw [hfold]
  dsimp only
  split <;> simp

/-- **Three words are written with one blank between any two.** -/
theorem normalizeBlanks_append {u v w b b' : List Char} (hu : Unbroken u) (hb : Gap b) (hv : Unbroken v) (hb' : Gap b')
    (hw : Unbroken w) : normalizeBlanks (u ++ (b ++ (v ++ (b' ++ w)))) = u ++ ' ' :: (v ++ ' ' :: w) := by
  rw [normalizeBlanks, words_append hu hb, words_append hv hb', words_of_unbroken hw]
  simp [List.intercalate]

end RouterTelemetry.Text
