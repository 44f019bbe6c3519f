import Mathlib.Data.List.Basic
import Mathlib.Tactic.Tauto
import RouterTelemetry.LogLine
import RouterTelemetry.Proofs.Time.Stamp
/-!
# Lines of an event

Where the text of an event falls into lines. Line feeds in values are escaped, those in the message are not, and so an
event has one line more than its message has line feeds. Main statements:

* `linesOf_append` : the lines of a text that ends with a line feed;
* `newline_not_mem_render` : no value brings a line feed with it;
* `newline_mem_body_iff` : where the line feeds of an event come from;
* `lines_of_event` : the text of an event, and its lines;
* `setting_on_two_lines` : a complaint about a setting of which the second line is without the mark.
-/

namespace RouterTelemetry

/-! ## Lines of a text -/

/-- A step of `linesOf`: the lines so far, latest first, and the line in hand, both reversed. -/
def lineStep (acc : List (List Char) × List Char) (c : Char) : List (List Char) × List Char :=
  if c = '\n' then (acc.2.reverse :: acc.1, []) else (acc.1, c :: acc.2)

theorem foldl_lineStep {last : List Char} (h : '\n' ∉ last) (done : List (List Char)) (s : List Char) :
    (s ++ ['\n']).foldl lineStep (done, last) = (((last.reverse ++ s).splitOn '\n').reverse ++ done, []) := by
  induction s generalizing done last with
  | nil =>
    rw [List.append_nil, List.splitOn_eq_singleton (by simpa using h)]
    rfl
  | cons c s ih =>
    rw [List.cons_append, List.foldl_cons]
    by_cases hc : c = '\n'
    · subst hc
      have hstep : lineStep (done, last) '\n' = (last.reverse :: done, []) := by
        rw [lineStep, if_pos rfl]
      rw [hstep, ih List.not_mem_nil, List.splitOn_append_cons_self_of_not_mem (by simpa using h), List.reverse_cons,
        List.append_assoc]
      rfl
    · have hstep : lineStep (done, last) c = (done, c :: last) := by
        rw [lineStep, if_neg hc]
      have hlast : '\n' ∉ c :: last := by
        rw [List.mem_cons, not_or]
        exact ⟨Ne.symm hc, h⟩
      rw [hstep, ih hlast, List.reverse_cons, List.append_assoc]
      rfl

/-- The lines of a text that ends with a line feed are what stands between line feeds before it. -/
theorem linesOf_append (s : List Char) : linesOf (s ++ ['\n']) = s.splitOn '\n' := by
  have hfold := foldl_lineStep List.not_mem_nil [] s
  have hlines (t : List Char) : linesOf t =
      (if (t.foldl lineStep ([], [])).2.isEmpty then (t.foldl lineStep ([], [])).1
        else (t.foldl lineStep ([], [])).2.reverse :: (t.foldl lineStep ([], [])).1).reverse := rfl
  rw [hlines, hfold]
  simp

namespace LogLine

open Text

/-! ## Values -/

theorem newline_not_mem_toDigits {b : Nat} (hb : 1 < b) (n : Nat) : '\n' ∉ Nat.toDigits b n := by
  induction n using Nat.strongRecOn with
  | ind n ih =>
    by_cases hn : n < b
    · rw [Nat.toDigits_of_lt_base hn, List.mem_singleton]
      exact (Nat.digitChar_ne '\n' (by decide)).symm
    · have hle : b ≤ n := Nat.le_of_not_lt hn
      rw [Nat.toDigits_of_base_le hb hle, List.mem_append, List.mem_singleton, not_or]
      exact ⟨ih (n / b) (Nat.div_lt_self (by omega) hb), (Nat.digitChar_ne '\n' (by decide)).symm⟩

theorem newline_not_mem_codePointEscape (c : Char) : '\n' ∉ codePointEscape c := by
  have hdigits := newline_not_mem_toDigits (b := 16) (by decide) c.toNat
  simp [codePointEscape, hexDigits, hdigits]

theorem newline_not_mem_quotedChar (c : Char) : '\n' ∉ quotedChar c := by
  unfold quotedChar
  split
  · decide
  split
  · decide
  split
  · decide
  split
  · decide
  split
  · decide
  split
  · decide
  next hnewline _ _ =>
  split
  · simpa using Ne.symm hnewline
  split
  · exact newline_not_mem_codePointEscape c
  · simpa using Ne.symm hnewline

/-- A text in quotes stands on one line. -/
theorem newline_not_mem_quoted (s : List Char) : '\n' ∉ quoted s := by
  have hchars : '\n' ∉ s.flatMap quotedChar := by
    rw [List.mem_flatMap]
    rintro ⟨c, -, hc⟩
    exact newline_not_mem_quotedChar c hc
  simp [quoted, hchars]

/-- **No value brings a line feed with it.** -/
theorem newline_not_mem_render (v : Value) : '\n' ∉ v.render := by
  cases v with
  | int i =>
    have hdigits (n : Nat) : '\n' ∉ Nat.toDigits 10 n := newline_not_mem_toDigits (by decide) n
    unfold Value.render
    cases i with
    | ofNat n =>
      show '\n' ∉ (toString (n : Int)).toList
      rw [Time.Field.toList_toString_natCast]
      exact hdigits n
    | negSucc n =>
      show '\n' ∉ (toString (Int.negSucc n)).toList
      rw [Time.Field.toList_toString_negSucc]
      simp [hdigits]
  | bool b => cases b <;> decide
  | text s => exact newline_not_mem_quoted s.toList

/-! ## Names -/

/-- The names that an event is written with: those of its spans and of all fields. -/
def Event.names (e : Event) : List String :=
  e.spans.flatMap (fun s => s.name :: s.fields.map Field.name) ++ e.fields.map Field.name

theorem newline_mem_renderField_iff (f : Field) : '\n' ∈ f.render ↔ '\n' ∈ f.name.toList := by
  have hvalue := newline_not_mem_render f.value
  simp [Field.render, hvalue]

theorem newline_mem_renderFields_iff (fs : List Field) :
    '\n' ∈ renderFields fs ↔ ∃ f ∈ fs, '\n' ∈ f.name.toList := by
  induction fs with
  | nil => simp [renderFields]
  | cons f fs ih =>
    cases fs with
    | nil =>
      rw [renderFields, List.map_singleton, List.intercalate_singleton, newline_mem_renderField_iff]
      simp
    | cons g fs =>
      have hcons : renderFields (f :: g :: fs) = f.render ++ [' '] ++ renderFields (g :: fs) := by
        rw [renderFields, List.map_cons, List.map_cons, List.intercalate_cons_cons]
        rfl
      rw [hcons, List.mem_append, List.mem_append, ih, newline_mem_renderField_iff]
      simp

/-! ## Spans -/

/-- How spans are written: each with its name, with its fields in braces if there are any, and with a colon and a space
behind it. -/
inductive SpansText : List Span → List Char → Prop
  | none : SpansText [] []
  | bare {name : String} {spans : List Span} {t : List Char} (rest : SpansText spans t) :
      SpansText (⟨name, []⟩ :: spans) (name.toList ++ ": ".toList ++ t)
  | withFields {name : String} {fields : List Field} {spans : List Span} {t : List Char} (some : fields ≠ [])
      (rest : SpansText spans t) :
      SpansText (⟨name, fields⟩ :: spans)
        (name.toList ++ '\x7b' :: renderFields fields ++ '\x7d' :: ": ".toList ++ t)

theorem spansText_flatMap (spans : List Span) : SpansText spans (spans.flatMap Span.render) := by
  induction spans with
  | nil => exact .none
  | cons s spans ih =>
    obtain ⟨name, fields⟩ := s
    rw [List.flatMap_cons]
    cases fields with
    | nil =>
      have hbare : Span.render ⟨name, []⟩ = name.toList ++ ": ".toList := by
        simp [Span.render]
      rw [hbare]
      exact .bare ih
    | cons f fs =>
      have hfields : Span.render ⟨name, f :: fs⟩ =
          name.toList ++ '\x7b' :: renderFields (f :: fs) ++ '\x7d' :: ": ".toList := by
        simp [Span.render]
      rw [hfields]
      exact .withFields (by simp) ih

theorem newline_mem_renderSpan_iff (s : Span) :
    '\n' ∈ s.render ↔ '\n' ∈ s.name.toList ∨ ∃ f ∈ s.fields, '\n' ∈ f.name.toList := by
  obtain ⟨name, fields⟩ := s
  cases fields with
  | nil => simp [Span.render]
  | cons f fs =>
    have hfields := newline_mem_renderFields_iff (f :: fs)
    simp [Span.render, hfields]

/-! ## Events -/

/-- What stands in front of the message. -/
def Event.heading (e : Event) : List Char :=
  mark.toList ++ " | ".toList ++ e.level.name.toList ++ " | ".toList ++ e.spans.flatMap Span.render

/-- How a message is written. -/
def shown (message : List Char) : List Char :=
  message.flatMap messageChar

/-- What stands behind the message. -/
def Event.trailing (e : Event) : List Char :=
  e.fields.flatMap fun f => ' ' :: f.render

/-- All that is written before the last line feed. -/
def Event.body (e : Event) : List Char :=
  e.heading ++ (shown e.message.toList ++ e.trailing)

theorem render_eq (e : Event) : e.render = e.body ++ ['\n'] := by
  simp [Event.render, Event.body, Event.heading, Event.trailing, shown]

/-- A line feed in a message stays one, and nothing else becomes one. -/
theorem newline_mem_messageChar_iff (c : Char) : '\n' ∈ messageChar c ↔ c = '\n' := by
  by_cases hc : c = '\n'
  · subst hc
    decide
  · have hescape := newline_not_mem_codePointEscape c
    have hne := Ne.symm hc
    unfold messageChar
    repeat' split
    all_goals simp [hc, hne, hescape]

theorem messageChar_newline : messageChar '\n' = ['\n'] := by
  decide

theorem newline_mem_shown_iff (m : List Char) : '\n' ∈ shown m ↔ '\n' ∈ m := by
  simp [shown, List.mem_flatMap, newline_mem_messageChar_iff]

theorem newline_not_mem_level (l : LogLevel) : '\n' ∉ l.name.toList := by
  cases l <;> decide

theorem newline_mem_heading_iff (e : Event) :
    '\n' ∈ e.heading ↔ ∃ s ∈ e.spans, '\n' ∈ s.name.toList ∨ ∃ f ∈ s.fields, '\n' ∈ f.name.toList := by
  have hmark : '\n' ∉ mark.toList := by decide
  have hbar : '\n' ∉ " | ".toList := by decide
  have hlevel := newline_not_mem_level e.level
  simp only [Event.heading, List.mem_append, hmark, hbar, hlevel, false_or, List.mem_flatMap,
    newline_mem_renderSpan_iff]

theorem newline_mem_trailing_iff (e : Event) : '\n' ∈ e.trailing ↔ ∃ f ∈ e.fields, '\n' ∈ f.name.toList := by
  simp [Event.trailing, List.mem_flatMap, newline_mem_renderField_iff]

theorem newline_in_names_iff (e : Event) :
    (∃ n ∈ e.names, '\n' ∈ n.toList) ↔ '\n' ∈ e.heading ∨ '\n' ∈ e.trailing := by
  rw [newline_mem_heading_iff, newline_mem_trailing_iff]
  simp only [Event.names, List.mem_append, List.mem_flatMap, List.mem_cons, List.mem_map]
  constructor
  · rintro ⟨n, ⟨s, hs, rfl | ⟨f, hf, rfl⟩⟩ | ⟨f, hf, rfl⟩, hn⟩
    · exact Or.inl ⟨s, hs, Or.inl hn⟩
    · exact Or.inl ⟨s, hs, Or.inr ⟨f, hf, hn⟩⟩
    · exact Or.inr ⟨f, hf, hn⟩
  · rintro (⟨s, hs, hn | ⟨f, hf, hn⟩⟩ | ⟨f, hf, hn⟩)
    · exact ⟨_, Or.inl ⟨s, hs, Or.inl rfl⟩, hn⟩
    · exact ⟨_, Or.inl ⟨s, hs, Or.inr ⟨f, hf, rfl⟩⟩, hn⟩
    · exact ⟨_, Or.inr ⟨f, hf, rfl⟩, hn⟩

/-- **Where line feeds come from**: the message, and names. -/
theorem newline_mem_body_iff (e : Event) :
    '\n' ∈ e.body ↔ '\n' ∈ e.message.toList ∨ ∃ n ∈ e.names, '\n' ∈ n.toList := by
  rw [newline_in_names_iff, Event.body, List.mem_append, List.mem_append, newline_mem_shown_iff]
  exact ⟨by tauto, by tauto⟩

/-- Lines with something in front of the first one and something behind the last one. -/
def between (front back : List Char) : List (List Char) → List (List Char)
  | [] => []
  | [p] => [front ++ (p ++ back)]
  | p :: q :: ps => (front ++ p) :: between [] back (q :: ps)

/-- The lines of a message between texts that stand on one line each. -/
theorem splitOn_between {front back : List Char} (hfront : '\n' ∉ front) (hback : '\n' ∉ back) (m : List Char) :
    (front ++ (shown m ++ back)).splitOn '\n' = between front back ((m.splitOn '\n').map shown) := by
  induction hn : m.length using Nat.strongRecOn generalizing front m with
  | ind n ih =>
    by_cases hm : '\n' ∈ m
    · obtain ⟨p, rest, rfl, hp⟩ := List.eq_append_cons_of_mem hm
      have hfirst : '\n' ∉ front ++ shown p := by
        rw [List.mem_append, newline_mem_shown_iff]
        exact not_or.mpr ⟨hfront, hp⟩
      have hshown : front ++ (shown (p ++ '\n' :: rest) ++ back) =
          (front ++ shown p) ++ '\n' :: ([] ++ (shown rest ++ back)) := by
        simp [shown, messageChar_newline]
      have hrest : rest.length < n := by
        rw [← hn, List.length_append, List.length_cons]
        omega
      rw [hshown, List.splitOn_append_cons_self_of_not_mem hfirst,
        List.splitOn_append_cons_self_of_not_mem hp, ih _ hrest List.not_mem_nil rest rfl, List.map_cons]
      -- the rest has a first line
      obtain ⟨q, ps, hq⟩ := List.exists_cons_of_ne_nil (List.splitOn_ne_nil '\n' rest)
      rw [hq]
      rfl
    · have hline : '\n' ∉ front ++ (shown m ++ back) := by
        rw [List.mem_append, List.mem_append, newline_mem_shown_iff]
        tauto
      rw [List.splitOn_eq_singleton hline, List.splitOn_eq_singleton hm]
      rfl

/-- **What is written for an event.** The mark, the level, the spans, the message and the fields, and a line feed at the
end. There is another line feed just if there is one in the message or in a name, whatever the values are. If there is
none in a name, the lines are those of the message: the first one behind all that stands in front of the message, with
the mark at its start, and the last one in front of the fields. -/
theorem lines_of_event (e : Event) :
    (∃ spans, SpansText e.spans spans ∧
      e.heading = "NETMON_AGENT | ".toList ++ e.level.name.toList ++ " | ".toList ++ spans) ∧
    e.body = e.heading ++ (shown e.message.toList ++ e.fields.flatMap fun f => ' ' :: f.render) ∧
    e.render = e.body ++ ['\n'] ∧
    ('\n' ∉ e.body ↔ '\n' ∉ e.message.toList ∧ ∀ n ∈ e.names, '\n' ∉ n.toList) ∧
    ((∀ n ∈ e.names, '\n' ∉ n.toList) →
      linesOf e.render = between e.heading e.trailing ((e.message.toList.splitOn '\n').map shown)) := by
  refine ⟨⟨_, spansText_flatMap e.spans, ?_⟩, rfl, render_eq e, ?_, fun hnames => ?_⟩
  · have hstart : "NETMON_AGENT | ".toList = mark.toList ++ " | ".toList := by decide
    rw [hstart]
    rfl
  · rw [newline_mem_body_iff, not_or]
    simp only [not_exists, not_and]
  · have hnone : ¬ ('\n' ∈ e.heading ∨ '\n' ∈ e.trailing) := by
      rw [← newline_in_names_iff]
      rintro ⟨n, hn, hmem⟩
      exact hnames n hn hmem
    rw [not_or] at hnone
    rw [render_eq, linesOf_append, Event.body, splitOn_between hnone.1 hnone.2]

/-- A failure in a span, with a message of two lines and a reason of two lines. -/
def failure : Event :=
  { level := .warn, spans := [⟨"flusher", [⟨"batch", .int 3⟩]⟩], message := "delivery\nfailed",
    fields := [⟨"reason", .text "no\nroute"⟩] }

/-- The message of a failure makes two lines of it, and the reason does not make a third one. -/
theorem lines_of_failure :
    (∀ n ∈ failure.names, '\n' ∉ n.toList) ∧
      linesOf failure.render = between failure.heading failure.trailing
        ((failure.message.toList.splitOn '\n').map shown) ∧
      linesOf failure.render =
        ["NETMON_AGENT | WARN | flusher\x7bbatch=3\x7d: delivery".toList,
          "failed reason=\"no\\nroute\"".toList] := by
  have hnames : ∀ n ∈ failure.names, '\n' ∉ n.toList := by
    decide
  exact ⟨hnames, (lines_of_event failure).2.2.2.2 hnames, by decide +kernel⟩

/-- The complaint about a setting is the message of an event, and a line feed in the setting puts the rest of it on a
line without the mark. -/
theorem setting_on_two_lines :
    let complaint : Event :=
      { level := .error, message := ((LogLevel.ofSetting (.string "lo\nud")).2).getD "" }
    (LogLevel.ofSetting (.string "lo\nud")).2 = some complaint.message ∧
      complaint.names = [] ∧
      '\n' ∈ complaint.body ∧
      linesOf complaint.render =
        ["NETMON_AGENT | ERROR | Invalid log level: 'lo".toList,
          "ud'. Valid levels are: error, warn, info, debug, trace".toList] ∧
      ¬ mark.toList <+: "ud'. Valid levels are: error, warn, info, debug, trace".toList := by
  decide +kernel

end LogLine

end RouterTelemetry
