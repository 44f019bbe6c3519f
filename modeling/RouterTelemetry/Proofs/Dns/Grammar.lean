import Mathlib.Data.List.Chain
import Mathlib.Data.List.Forall2
import RouterTelemetry.Proofs.Dns.Names
import RouterTelemetry.Proofs.Text.Classes
/-!
# The grammar of lines

What a line of the log looks like, said without its reader. A shape is a list of pieces: given texts, characters of a
class in a given number, and runs of them. In the shapes of lines, no piece can begin with a character with which the
run in front of it goes on, so that a text is divided into the pieces of a shape in one way at most, and reading it from
left to right finds the division. Main statements:

* `Shape.readAll?_eq_some_iff` : reading piece by piece finds the division of a text, if there is one;
* `Form.eq_of_divides` : a text has the form of a line in at most one way;
* `shape?_eq_some_iff` : the reader of lines takes the texts of one of the two forms, and no others;
* `grammatical` : what is said of a text is settled by the grammar.
-/

namespace RouterTelemetry.Dns

open Text Time

/-! ## Pieces -/

/-- A piece of a shape: a given text, so many characters of a class, or a run of characters of a class. -/
inductive Piece where
  | text (t : List Char)
  | exactly (n : Nat) (p : Char → Bool)
  | run (p : Char → Bool)

namespace Piece

/-- Whether a text can stand for the piece. -/
def Fits : Piece → List Char → Prop
  | text t, x => x = t
  | exactly n p, x => x.length = n ∧ ∀ c ∈ x, p c = true
  | run p, x => x ≠ [] ∧ ∀ c ∈ x, p c = true

/-- Whether a text that stands for the piece can begin with a character. -/
def Begins : Piece → Char → Prop
  | text t, c => c ∈ t.head?
  | exactly _ p, c => p c = true
  | run p, c => p c = true

/-- Whether the piece is over where a character follows. A run goes on for as long as it can. -/
def Ends : Piece → Char → Prop
  | run p, c => p c = false
  | text _, _ => True
  | exactly _ _, _ => True

/-- Whether no empty text can stand for the piece. -/
def isSolid : Piece → Bool
  | text t => !t.isEmpty
  | exactly n _ => n != 0
  | run _ => true

/-- Whether the piece `a` is over wherever the piece `b` begins. -/
def Precedes (a b : Piece) : Prop :=
  ∀ c, b.Begins c → a.Ends c

/-- A text that stands for a piece begins as the piece does. -/
theorem Fits.begins {a : Piece} {x : List Char} (h : a.Fits x) (c : Char) (hc : c ∈ x.head?) : a.Begins c := by
  cases a with
  | text t => exact h ▸ hc
  | exactly n p => exact h.2 c (List.mem_of_mem_head? hc)
  | run p => exact h.2 c (List.mem_of_mem_head? hc)

theorem Fits.ne_nil {a : Piece} {x : List Char} (h : a.Fits x) (ha : a.isSolid = true) : x ≠ [] := by
  rintro rfl
  cases a with
  | text t =>
    obtain rfl : [] = t := h
    exact Bool.noConfusion ha
  | exactly n p =>
    obtain rfl : 0 = n := h.1
    exact Bool.noConfusion ha
  | run p => exact h.1 rfl

/-- Reads the piece at the start of a text. -/
def read? : Piece → List Char → Option Line.Found
  | text t, s => (Line.after? t s).map fun r => (t, r)
  | exactly n p, s => Line.exactly? n p s
  | run p, s => Line.run? p s

theorem read?_eq_some_iff {a : Piece} {s x r : List Char} :
    a.read? s = some (x, r) ↔ s = x ++ r ∧ a.Fits x ∧ ∀ c ∈ r.head?, a.Ends c := by
  cases a with
  | text t =>
    simp only [read?, Option.map_eq_some_iff, Line.after?_eq_some_iff, Prod.mk.injEq, Fits, Ends]
    constructor
    · rintro ⟨_, rfl, rfl, rfl⟩
      exact ⟨rfl, rfl, fun _ _ => trivial⟩
    · rintro ⟨rfl, rfl, -⟩
      exact ⟨r, rfl, rfl, rfl⟩
  | exactly n p =>
    rw [read?, Line.exactly?_eq_some_iff]
    exact ⟨fun h => ⟨h.1, h.2, fun _ _ => trivial⟩, fun h => ⟨h.1, h.2.1⟩⟩
  | run p =>
    rw [read?, Line.run?_eq_some_iff]
    exact ⟨fun h => ⟨h.1, ⟨h.2.1, h.2.2.1⟩, h.2.2.2⟩, fun h => ⟨h.1, h.2.1.1, h.2.1.2, h.2.2⟩⟩

theorem read?_run (p : Char → Bool) (s : List Char) : (run p).read? s = Line.run? p s :=
  rfl

theorem read?_exactly (n : Nat) (p : Char → Bool) (s : List Char) :
    (exactly n p).read? s = Line.exactly? n p s :=
  rfl

theorem read?_text {t s r : List Char} : (text t).read? s = some (t, r) ↔ Line.after? t s = some r := by
  simp only [read?, Option.map_eq_some_iff, Prod.mk.injEq, true_and, exists_eq_right]

end Piece

/-! ## Shapes -/

/-- Pieces one after the other. -/
abbrev Shape := List Piece

namespace Shape

/-- Whether each piece is over where the next one begins. -/
structure Decisive (shape : Shape) : Prop where
  solid : ∀ a ∈ shape, a.isSolid = true
  ends : shape.IsChain Piece.Precedes

theorem Decisive.tail {a : Piece} {shape : Shape} (h : Decisive (a :: shape)) : Decisive shape :=
  ⟨fun b hb => h.solid b (List.mem_cons_of_mem a hb), h.ends.tail⟩

/-- One shape behind another. -/
theorem Decisive.append {shape shape' : Shape} (h : Decisive shape) (h' : Decisive shape')
    (hover : ∀ a ∈ shape.getLast?, ∀ b ∈ shape'.head?, a.Precedes b) : Decisive (shape ++ shape') := by
  refine ⟨fun a ha => ?_, h.ends.append h'.ends hover⟩
  rcases List.mem_append.mp ha with ha | ha
  · exact h.solid a ha
  · exact h'.solid a ha

/-- Whether the last piece is over where the text `r` follows. -/
def Closes (shape : Shape) (r : List Char) : Prop :=
  ∀ a ∈ shape.getLast?, ∀ c ∈ r.head?, a.Ends c

/-- Reads the pieces of a shape one after the other. -/
def readAll? : Shape → List Char → Option (List (List Char) × List Char)
  | [], s => some ([], s)
  | a :: shape, s =>
    (a.read? s).bind fun p => (readAll? shape p.2).map fun q => (p.1 :: q.1, q.2)

theorem closes_cons {a b : Piece} {shape : Shape} {r : List Char} :
    Closes (a :: b :: shape) r ↔ Closes (b :: shape) r := by
  rw [Closes, Closes, List.getLast?_cons_cons]

theorem readAll?_cons_eq_some_iff {a : Piece} {shape : Shape} {s r : List Char} {xs : List (List Char)} :
    readAll? (a :: shape) s = some (xs, r) ↔
      ∃ x t ys, xs = x :: ys ∧ a.read? s = some (x, t) ∧ readAll? shape t = some (ys, r) := by
  simp only [readAll?, Option.bind_eq_some_iff, Option.map_eq_some_iff, Prod.exists, Prod.mk.injEq]
  constructor
  · rintro ⟨x, t, hx, ys, r', hys, rfl, rfl⟩
    exact ⟨x, t, ys, rfl, hx, hys⟩
  · rintro ⟨x, t, ys, rfl, hx, hys⟩
    exact ⟨x, t, hx, ys, r, hys, rfl, rfl⟩

theorem readAll?_cons_cons {a : Piece} {shape : Shape} {s x r : List Char} {xs : List (List Char)} :
    readAll? (a :: shape) s = some (x :: xs, r) ↔
      ∃ t, a.read? s = some (x, t) ∧ readAll? shape t = some (xs, r) := by
  rw [readAll?_cons_eq_some_iff]
  constructor
  · rintro ⟨_, t, _, hcons, hx, hxs⟩
    obtain ⟨rfl, rfl⟩ := List.cons.inj hcons
    exact ⟨t, hx, hxs⟩
  · rintro ⟨t, hx, hxs⟩
    exact ⟨x, t, xs, rfl, hx, hxs⟩

theorem readAll?_nil {s r : List Char} : readAll? [] s = some ([], r) ↔ s = r := by
  simp only [readAll?, Option.some.injEq, Prod.mk.injEq, true_and]

/-- **Reading piece by piece finds the division of a text.** -/
theorem readAll?_eq_some_iff {shape : Shape} (h : shape.Decisive) {s r : List Char} {xs : List (List Char)} :
    readAll? shape s = some (xs, r) ↔
      s = xs.flatten ++ r ∧ List.Forall₂ Piece.Fits shape xs ∧ shape.Closes r := by
  -- by induction on the shape; what is left behind a piece begins with the next one, or is the rest
  induction shape generalizing s xs with
  | nil =>
    rw [readAll?, Option.some.injEq, Prod.mk.injEq, List.forall₂_nil_left_iff]
    constructor
    · rintro ⟨rfl, rfl⟩
      exact ⟨rfl, rfl, fun a ha => absurd ha (by simp)⟩
    · rintro ⟨rfl, rfl, -⟩
      exact ⟨rfl, rfl⟩
  | cons a shape ih =>
    rw [readAll?_cons_eq_some_iff]
    constructor
    · rintro ⟨x, t, ys, rfl, hx, hys⟩
      obtain ⟨rfl, hfits, hends⟩ := Piece.read?_eq_some_iff.mp hx
      cases shape with
      | nil =>
        rw [readAll?, Option.some.injEq, Prod.mk.injEq] at hys
        obtain ⟨rfl, rfl⟩ := hys
        refine ⟨by simp, .cons hfits .nil, ?_⟩
        intro b hb
        obtain rfl : a = b := by simpa using hb
        exact hends
      | cons b shape =>
        obtain ⟨rfl, hall, hcloses⟩ := (ih h.tail).mp hys
        exact ⟨by simp, .cons hfits hall, closes_cons.mpr hcloses⟩
    · rintro ⟨rfl, hall, hcloses⟩
      obtain ⟨x, ys, hfits, hrest, rfl⟩ := List.forall₂_cons_left_iff.mp hall
      have hread : a.read? ((x :: ys).flatten ++ r) = some (x, ys.flatten ++ r) ↔
          ∀ c ∈ (ys.flatten ++ r).head?, a.Ends c := by
        rw [Piece.read?_eq_some_iff, List.flatten_cons, List.append_assoc]
        exact ⟨fun h => h.2.2, fun h => ⟨rfl, hfits, h⟩⟩
      cases shape with
      | nil =>
        obtain rfl := List.forall₂_nil_left_iff.mp hrest
        exact ⟨x, r, [], rfl, hread.mpr (hcloses a (by simp)), rfl⟩
      | cons b shape =>
        refine ⟨x, ys.flatten ++ r, ys, rfl, hread.mpr ?_,
          (ih h.tail).mpr ⟨rfl, hrest, closes_cons.mp hcloses⟩⟩
        obtain ⟨y, zs, hy, -, rfl⟩ := List.forall₂_cons_left_iff.mp hrest
        have hsolid : b.isSolid = true := h.solid b (List.mem_cons_of_mem a (List.mem_cons_self ..))
        have hover : a.Precedes b := (List.isChain_cons_cons.mp h.ends).1
        intro c hc
        rw [List.flatten_cons, List.append_assoc, List.head?_append_of_ne_nil _ (hy.ne_nil hsolid)] at hc
        exact hover c (hy.begins c hc)

/-- Two shapes one after the other. -/
theorem readAll?_append {shape shape' : Shape} {s r : List Char} {xs ys : List (List Char)}
    (hlen : xs.length = shape.length) :
    readAll? (shape ++ shape') s = some (xs ++ ys, r) ↔
      ∃ t, readAll? shape s = some (xs, t) ∧ readAll? shape' t = some (ys, r) := by
  induction shape generalizing s xs with
  | nil =>
    obtain rfl := List.length_eq_zero_iff.mp hlen
    simp only [List.nil_append, readAll?_nil, exists_eq_left']
  | cons a shape ih =>
    obtain ⟨x, xs, rfl⟩ := List.exists_cons_of_length_eq_add_one hlen
    simp only [List.cons_append, readAll?_cons_cons, ih (Nat.succ.inj hlen)]
    constructor
    · rintro ⟨t, hx, u, hxs, hys⟩
      exact ⟨u, ⟨t, hx, hxs⟩, hys⟩
    · rintro ⟨u, ⟨t, hx, hxs⟩, hys⟩
      exact ⟨t, hx, u, hxs, hys⟩

end Shape

/-! ## Digits and blanks -/

/-- A digit of any script is no blank. -/
theorem isBlank_of_isDigit {c : Char} (h : isDigit c = true) : isBlank c = false := by
  have apart : Apart digitRanges blankRanges := by decide +kernel
  rw [isBlank_eq_inRanges]
  exact inRanges_eq_false_of_apart apart h

/-- A blank is no digit of any script. -/
theorem isDigit_of_isBlank {c : Char} (h : isBlank c = true) : isDigit c = false := by
  by_contra hdigit
  rw [Bool.not_eq_false] at hdigit
  rw [isBlank_of_isDigit hdigit] at h
  exact Bool.noConfusion h

/-! ## Forms of lines -/

/-- The pieces in front of what a line reports: the stamp, the name of the host and the number of the process, with
blanks behind each. -/
structure Heading where
  month : List Char
  afterMonth : List Char
  day : List Char
  afterDay : List Char
  hour : List Char
  minute : List Char
  second : List Char
  afterClock : List Char
  host : List Char
  afterHost : List Char
  process : List Char
  afterProcess : List Char

/-- The pieces of what a line reports, up to the last word that is read. -/
inductive Report where
  | query (type afterType name afterName beforeClient client : List Char)
  | reply (afterReply name afterName beforeAnswer answer : List Char)

/-- The pieces of a line. What follows the last word that is read is the rest. -/
structure Form where
  heading : Heading
  report : Report
  rest : List Char

namespace Heading

/-- Three characters of a word, a number, a clock reading and a host, with blanks behind each, and the resolver with the
number of its process. -/
def shape : Shape := [
  .exactly 3 isWord, .run isBlank, .run isDigit, .run isBlank,
  .exactly 2 isDigit, .text [':'], .exactly 2 isDigit, .text [':'], .exactly 2 isDigit, .run isBlank,
  .run (!isBlank ·), .run isBlank, .text "dnsmasq[".toList, .run isDigit, .text "]:".toList, .run isBlank]

/-- The day of a year, with blanks behind it. -/
def dayShape : Shape :=
  [.exactly 3 isWord, .run isBlank, .run isDigit, .run isBlank]

/-- A clock reading. -/
def clockShape : Shape :=
  [.exactly 2 isDigit, .text [':'], .exactly 2 isDigit, .text [':'], .exactly 2 isDigit]

/-- What stands behind a stamp: where the line comes from. -/
def sourceShape : Shape := [
  .run isBlank, .run (!isBlank ·), .run isBlank, .text "dnsmasq[".toList, .run isDigit, .text "]:".toList,
  .run isBlank]

/-- The pieces of a heading, in the order of its shape. -/
def parts (h : Heading) : List (List Char) := [
  h.month, h.afterMonth, h.day, h.afterDay,
  h.hour, [':'], h.minute, [':'], h.second, h.afterClock,
  h.host, h.afterHost, "dnsmasq[".toList, h.process, "]:".toList, h.afterProcess]

/-- The stamp of a line. -/
def stamp (h : Heading) : List Char :=
  h.month ++ h.afterMonth ++ h.day ++ h.afterDay ++ (h.hour ++ ':' :: (h.minute ++ ':' :: h.second))

theorem length_parts (h : Heading) : h.parts.length = shape.length :=
  rfl

theorem parts_injective {h h' : Heading} (hparts : h.parts = h'.parts) : h = h' := by
  cases h
  cases h'
  simpa [parts] using hparts

end Heading

/-- Whether an answer says that there is no such name: it has the word for it in it, in letters of any case. -/
def NamesNothing (answer : List Char) : Prop :=
  ∃ word, word <:+: answer ∧ word.map Char.toUpper = "NXDOMAIN".toList

namespace Report

/-- Two words with a third, given one between them. -/
def wordsShape (between : List Char) : Shape := [
  .run (!isBlank ·), .run isBlank, .text between, .run isBlank, .run (!isBlank ·)]

/-- A query: its type in brackets, the name, and the client. -/
def queryShape : Shape :=
  [.text "query[".toList, .run (· != ']'), .text [']'], .run isBlank] ++ wordsShape "from".toList

/-- A reply: the name and the answer. -/
def replyShape : Shape :=
  [.text "reply".toList, .run isBlank] ++ wordsShape "is".toList

/-- The shape of what is reported. -/
def shape : Report → Shape
  | query .. => queryShape
  | reply .. => replyShape

/-- The pieces of what is reported, in the order of its shape. -/
def parts : Report → List (List Char)
  | query type afterType name afterName beforeClient client =>
    ["query[".toList, type, [']'], afterType] ++ [name, afterName, "from".toList, beforeClient, client]
  | reply afterReply name afterName beforeAnswer answer =>
    ["reply".toList, afterReply] ++ [name, afterName, "is".toList, beforeAnswer, answer]

/-- What is reported. -/
def Says : Report → Activity → Prop
  | query type _ name _ _ client, a =>
    a = .query (String.ofList client) (String.ofList name) (String.ofList type)
  | reply _ name _ _ answer, a =>
    ∃ missing, a = .reply (String.ofList name) missing ∧ (missing = true ↔ NamesNothing answer)

end Report

namespace Form

/-- The shape of a line. -/
def shape (f : Form) : Shape :=
  Heading.shape ++ f.report.shape

/-- The pieces of a line up to the rest, in the order of its shape. -/
def parts (f : Form) : List (List Char) :=
  f.heading.parts ++ f.report.parts

/-- **The grammar.** Whether a text is made of the pieces of a line: each of them stands for its piece of the shape, and
the rest begins with a blank, if there is any. -/
structure Divides (f : Form) (s : List Char) : Prop where
  fits : List.Forall₂ Piece.Fits f.shape f.parts
  rest : ∀ c ∈ f.rest.head?, isBlank c = true
  eq : s = f.parts.flatten ++ f.rest

end Form

/-! ## Shapes of lines are decisive -/

/-- Blanks are over in front of a word. -/
theorem blanks_precede_word : (Piece.run isBlank).Precedes (.run (!isBlank ·)) :=
  fun _ => (Bool.not_eq_true' _).mp

/-- A word is over in front of blanks. -/
theorem word_precedes_blanks : (Piece.run (!isBlank ·)).Precedes (.run isBlank) :=
  fun _ => (Bool.not_eq_false' _).mpr

/-- Only a run can go on with what follows. -/
theorem text_precedes (t : List Char) (b : Piece) : (Piece.text t).Precedes b :=
  fun _ _ => trivial

theorem exactly_precedes (n : Nat) (p : Char → Bool) (b : Piece) : (Piece.exactly n p).Precedes b :=
  fun _ _ => trivial

/-- How a text begins. -/
theorem head?_of_all {t : List Char} {p : Char → Bool} (h : t.head?.all (!p ·) = true) :
    ∀ c ∈ t.head?, p c = false := by
  simpa [Option.all_eq_true] using h

theorem Heading.decisive : Heading.shape.Decisive where
  solid := by decide +kernel
  ends := by
    have digit : ∀ c, isDigit c = true → isBlank c = false := fun _ => isBlank_of_isDigit
    have blank : ∀ c, isBlank c = true → isDigit c = false := fun _ => isDigit_of_isBlank
    have resolver : ∀ c ∈ "dnsmasq[".toList.head?, isBlank c = false := head?_of_all (by decide +kernel)
    have bracket : ∀ c ∈ "]:".toList.head?, isDigit c = false := head?_of_all (by decide +kernel)
    simp only [shape, List.isChain_cons_cons, List.isChain_singleton, and_true]
    exact ⟨exactly_precedes _ _ _, digit, blank, digit, exactly_precedes _ _ _, text_precedes _ _,
      exactly_precedes _ _ _, text_precedes _ _, exactly_precedes _ _ _, blanks_precede_word, word_precedes_blanks,
      resolver, text_precedes _ _, bracket, text_precedes _ _⟩

namespace Report

theorem decisive_words {between : List Char} (hne : between.isEmpty = false)
    (hbetween : ∀ c ∈ between.head?, isBlank c = false) : (wordsShape between).Decisive where
  solid := by simp [wordsShape, Piece.isSolid, hne]
  ends := by
    simp only [wordsShape, List.isChain_cons_cons, List.isChain_singleton, and_true]
    exact ⟨word_precedes_blanks, hbetween, text_precedes _ _, blanks_precede_word⟩

theorem decisive_query : queryShape.Decisive := by
  refine .append ⟨by decide +kernel, ?_⟩ (decisive_words (by decide +kernel) (head?_of_all (by decide +kernel))) ?_
  · have bracket : ∀ c ∈ [']'].head?, (c != ']') = false := head?_of_all (by decide)
    simp only [List.isChain_cons_cons, List.isChain_singleton, and_true]
    exact ⟨text_precedes _ _, bracket, text_precedes _ _⟩
  · rintro _ ⟨⟩ _ ⟨⟩
    exact blanks_precede_word

theorem decisive_reply : replyShape.Decisive := by
  refine .append ⟨by decide +kernel, ?_⟩ (decisive_words (by decide +kernel) (head?_of_all (by decide +kernel))) ?_
  · simp only [List.isChain_cons_cons, List.isChain_singleton, and_true]
    exact text_precedes _ _
  · rintro _ ⟨⟩ _ ⟨⟩
    exact blanks_precede_word

/-- What is reported begins without a blank. -/
theorem blanks_precede (p : Report) : ∀ a ∈ p.shape.head?, (Piece.run isBlank).Precedes a := by
  have query : ∀ c ∈ "query[".toList.head?, isBlank c = false := head?_of_all (by decide +kernel)
  have reply : ∀ c ∈ "reply".toList.head?, isBlank c = false := head?_of_all (by decide +kernel)
  cases p with
  | query =>
    rintro _ ⟨⟩
    exact query
  | reply =>
    rintro _ ⟨⟩
    exact reply

theorem decisive (p : Report) : p.shape.Decisive := by
  cases p with
  | query => exact decisive_query
  | reply => exact decisive_reply

/-- What is reported ends with a word. -/
theorem getLast?_shape (p : Report) : p.shape.getLast? = some (.run (!isBlank ·)) := by
  cases p <;> rfl

/-- A text that begins as a query does not begin as a reply. -/
theorem query_ne_reply (r r' : List Char) : "query[".toList ++ r ≠ "reply".toList ++ r' := by
  intro h
  have hsecond : some 'u' = some 'e' := congrArg (fun s => s[1]?) h
  exact absurd hsecond (by decide)

/-- What is reported is one thing only. -/
theorem eq_of_readAll? {p p' : Report} {t r r' : List Char} (h : p.shape.readAll? t = some (p.parts, r))
    (h' : p'.shape.readAll? t = some (p'.parts, r')) : p = p' ∧ r = r' := by
  have begins {a : List Char} {shape : Shape} {xs : List (List Char)} {r : List Char}
      (h : Shape.readAll? (.text a :: shape) t = some (a :: xs, r)) : ∃ u, t = a ++ u := by
    obtain ⟨u, hu, -⟩ := Shape.readAll?_cons_cons.mp h
    exact ⟨u, Line.after?_eq_some_iff.mp (Piece.read?_text.mp hu)⟩
  cases p with
  | query =>
    cases p' with
    | query =>
      have hsame := h.symm.trans h'
      simpa [parts] using hsame
    | reply =>
      obtain ⟨u, hu⟩ := begins h
      obtain ⟨u', hu'⟩ := begins h'
      exact absurd (hu.symm.trans hu') (query_ne_reply u u')
  | reply =>
    cases p' with
    | query =>
      obtain ⟨u, hu⟩ := begins h
      obtain ⟨u', hu'⟩ := begins h'
      exact absurd (hu'.symm.trans hu) (query_ne_reply u' u)
    | reply =>
      have hsame := h.symm.trans h'
      simpa [parts] using hsame

end Report

namespace Form

theorem decisive (f : Form) : f.shape.Decisive := by
  refine Heading.decisive.append f.report.decisive ?_
  rintro _ ⟨⟩ b hb
  exact f.report.blanks_precede b hb

/-- **A line is divided by reading its pieces**, those of the heading and then those of what it reports. -/
theorem divides_iff {f : Form} {s : List Char} :
    f.Divides s ↔
      ∃ t, Heading.shape.readAll? s = some (f.heading.parts, t) ∧
        f.report.shape.readAll? t = some (f.report.parts, f.rest) := by
  have hlast : f.shape.getLast? = some (.run (!isBlank ·)) := by
    rw [shape, List.getLast?_append, f.report.getLast?_shape, Option.some_or]
  have hcloses : f.shape.Closes f.rest ↔ ∀ c ∈ f.rest.head?, isBlank c = true := by
    simp [Shape.Closes, hlast, Piece.Ends]
  rw [← Shape.readAll?_append f.heading.length_parts]
  show _ ↔ Shape.readAll? f.shape s = some (f.parts, f.rest)
  rw [Shape.readAll?_eq_some_iff f.decisive, hcloses]
  exact ⟨fun h => ⟨h.eq, h.fits, h.rest⟩, fun h => ⟨h.2.1, h.2.2, h.1⟩⟩

/-- **A text has the form of a line in one way at most.** -/
theorem eq_of_divides {f f' : Form} {s : List Char} (h : f.Divides s) (h' : f'.Divides s) : f = f' := by
  obtain ⟨t, hheading, hreport⟩ := divides_iff.mp h
  obtain ⟨t', hheading', hreport'⟩ := divides_iff.mp h'
  obtain ⟨hparts, rfl⟩ := Prod.mk.inj (Option.some.inj (hheading.symm.trans hheading'))
  obtain ⟨hsame, hrest⟩ := Report.eq_of_readAll? hreport hreport'
  have hsame' : f.heading = f'.heading := Heading.parts_injective hparts
  cases f
  cases f'
  rw [mk.injEq]
  exact ⟨hsame', hsame, hrest⟩

end Form

/-! ## The reader of lines -/

namespace Line

open Shape

/-- The pieces of two words with a third between them are read one after the other. -/
theorem wordsAround?_eq_some_iff {between s first second : List Char} :
    wordsAround? between s = some (first, second) ↔
      ∃ b b' r, readAll? (Report.wordsShape between) s = some ([first, b, between, b', second], r) := by
  simp only [wordsAround?, solid?, blanks?, Report.wordsShape, Option.bind_eq_bind, Option.bind_eq_some_iff,
    readAll?_cons_cons, readAll?_nil, Piece.read?_text, Piece.read?_run, Prod.exists, Prod.mk.injEq,
    Option.some.injEq]
  constructor
  · rintro ⟨first, s₁, hfirst, b, s₂, hb, s₃, hbetween, b', s₄, hb', second, r, hsecond, rfl, rfl⟩
    exact ⟨b, b', r, s₁, hfirst, s₂, hb, s₃, hbetween, s₄, hb', r, hsecond, rfl⟩
  · rintro ⟨b, b', r, s₁, hfirst, s₂, hb, s₃, hbetween, s₄, hb', _, hsecond, rfl⟩
    exact ⟨first, s₁, hfirst, b, s₂, hb, s₃, hbetween, b', s₄, hb', second, _, hsecond, rfl, rfl⟩

/-- The pieces of a clock reading are read one after the other. -/
theorem clock?_eq_some_iff {s x r : List Char} :
    clock? s = some (x, r) ↔
      ∃ hour minute second, hour ++ ':' :: (minute ++ ':' :: second) = x ∧
        readAll? Heading.clockShape s = some ([hour, [':'], minute, [':'], second], r) := by
  simp only [clock?, Heading.clockShape, Option.bind_eq_bind, Option.bind_eq_some_iff, readAll?_cons_cons,
    readAll?_nil, Piece.read?_text, Piece.read?_exactly, Prod.exists, Prod.mk.injEq, Option.some.injEq]
  constructor
  · rintro ⟨hour, s₁, hhour, s₂, hcolon, minute, s₃, hminute, s₄, hcolon', second, r, hsecond, rfl, rfl⟩
    exact ⟨hour, minute, second, rfl, s₁, hhour, s₂, hcolon, s₃, hminute, s₄, hcolon', r, hsecond, rfl⟩
  · rintro ⟨hour, minute, second, rfl, s₁, hhour, s₂, hcolon, s₃, hminute, s₄, hcolon', r, hsecond, rfl⟩
    exact ⟨hour, s₁, hhour, s₂, hcolon, minute, s₃, hminute, s₄, hcolon', second, r, hsecond, rfl, rfl⟩

/-- The pieces of a stamp are read one after the other. -/
theorem stamp?_eq_some_iff {s x r : List Char} :
    stamp? s = some (x, r) ↔
      ∃ month b day b' hour minute second,
        month ++ b ++ day ++ b' ++ (hour ++ ':' :: (minute ++ ':' :: second)) = x ∧
          readAll? (Heading.dayShape ++ Heading.clockShape) s =
            some ([month, b, day, b'] ++ [hour, [':'], minute, [':'], second], r) := by
  simp only [stamp?, blanks?, Heading.dayShape, Option.bind_eq_bind, Option.bind_eq_some_iff, clock?_eq_some_iff,
    List.cons_append, List.nil_append, readAll?_cons_cons, Piece.read?_run, Piece.read?_exactly, Prod.exists,
    Prod.mk.injEq, Option.some.injEq]
  constructor
  · rintro ⟨month, s₁, hmonth, b, s₂, hb, day, s₃, hday, b', s₄, hb', _, r,
      ⟨hour, minute, second, rfl, hclock⟩, rfl, rfl⟩
    exact ⟨month, b, day, b', hour, minute, second, rfl, s₁, hmonth, s₂, hb, s₃, hday, s₄, hb', hclock⟩
  · rintro ⟨month, b, day, b', hour, minute, second, rfl, s₁, hmonth, s₂, hb, s₃, hday, s₄, hb', hclock⟩
    exact ⟨month, s₁, hmonth, b, s₂, hb, day, s₃, hday, b', s₄, hb', _, r,
      ⟨hour, minute, second, rfl, hclock⟩, rfl, rfl⟩

/-- The pieces of a heading are read one after the other. -/
theorem heading?_eq_some_iff {s stamp r : List Char} :
    heading? s = some (stamp, r) ↔
      ∃ h : Heading, h.stamp = stamp ∧ readAll? Heading.shape s = some (h.parts, r) := by
  have hsplit (h : Heading) (r : List Char) : readAll? Heading.shape s = some (h.parts, r) ↔
      ∃ t, readAll? (Heading.dayShape ++ Heading.clockShape) s =
          some ([h.month, h.afterMonth, h.day, h.afterDay] ++ [h.hour, [':'], h.minute, [':'], h.second], t) ∧
        readAll? Heading.sourceShape t =
          some ([h.afterClock, h.host, h.afterHost, "dnsmasq[".toList, h.process, "]:".toList, h.afterProcess], r) := by
    rw [← readAll?_append (by rfl)]
    rfl
  simp only [hsplit, heading?, solid?, blanks?, Heading.sourceShape, Heading.stamp, Option.bind_eq_bind,
    Option.bind_eq_some_iff, stamp?_eq_some_iff, readAll?_cons_cons, readAll?_nil, Piece.read?_text,
    Piece.read?_run, Prod.exists, Prod.mk.injEq, Option.some.injEq]
  constructor
  · rintro ⟨_, t, ⟨month, b₁, day, b₂, hour, minute, second, rfl, hstamp⟩, b₃, s₁, hb₃, host, s₂, hhost, b₄, s₃, hb₄,
      s₄, hname, process, s₅, hprocess, s₆, hclose, b₅, r, hb₅, rfl, rfl⟩
    exact ⟨⟨month, b₁, day, b₂, hour, minute, second, b₃, host, b₄, process, b₅⟩, rfl, t, hstamp, s₁, hb₃, s₂, hhost,
      s₃, hb₄, s₄, hname, s₅, hprocess, s₆, hclose, r, hb₅, rfl⟩
  · rintro ⟨h, rfl, t, hstamp, s₁, hb₃, s₂, hhost, s₃, hb₄, s₄, hname, s₅, hprocess, s₆, hclose, r, hb₅, rfl⟩
    exact ⟨_, t, ⟨_, _, _, _, _, _, _, rfl, hstamp⟩, _, s₁, hb₃, _, s₂, hhost, _, s₃, hb₄, s₄, hname, _, s₅, hprocess,
      s₆, hclose, _, r, hb₅, rfl, rfl⟩

/-- The pieces of a query are read one after the other. -/
theorem query?_eq_some_iff {s : List Char} {a : Activity} :
    query? s = some a ↔
      ∃ type b name b' b'' client r,
        readAll? Report.queryShape s = some ((Report.query type b name b' b'' client).parts, r) ∧
          (Report.query type b name b' b'' client).Says a := by
  simp only [query?, blanks?, Report.queryShape, Report.parts, Report.Says, Option.bind_eq_bind,
    Option.bind_eq_some_iff, wordsAround?_eq_some_iff, List.cons_append, List.nil_append, readAll?_cons_cons,
    Piece.read?_text, Piece.read?_run, Prod.exists, Option.some.injEq]
  constructor
  · rintro ⟨s₁, hquery, type, s₂, htype, s₃, hclose, b, s₄, hb, name, client, ⟨b', b'', r, hwords⟩, rfl⟩
    exact ⟨type, b, name, b', b'', client, r, ⟨s₁, hquery, s₂, htype, s₃, hclose, s₄, hb, hwords⟩, rfl⟩
  · rintro ⟨type, b, name, b', b'', client, r, ⟨s₁, hquery, s₂, htype, s₃, hclose, s₄, hb, hwords⟩, rfl⟩
    exact ⟨s₁, hquery, type, s₂, htype, s₃, hclose, b, s₄, hb, name, client, ⟨b', b'', r, hwords⟩, rfl⟩

theorem hasInside_iff {t s : List Char} : hasInside t s = true ↔ t <:+: s := by
  induction s with
  | nil => rw [hasInside, List.isEmpty_iff, List.infix_nil]
  | cons c s ih => rw [hasInside, Bool.or_eq_true, List.isPrefixOf_iff_prefix, ih, List.infix_cons_iff]

/-- An answer says that there is no such name if it has the word for it in it. -/
theorem saysMissing_iff {answer : List Char} : saysMissing answer = true ↔ NamesNothing answer := by
  rw [saysMissing, hasInside_iff]
  constructor
  · intro h
    obtain ⟨front, back, hsplit⟩ := h
    obtain ⟨through, back', rfl, hthrough, -⟩ := List.map_eq_append_iff.mp hsplit.symm
    obtain ⟨front', word, rfl, -, hword⟩ := List.map_eq_append_iff.mp hthrough
    exact ⟨word, ⟨front', back', rfl⟩, hword⟩
  · rintro ⟨word, hinfix, hword⟩
    exact hword ▸ hinfix.map Char.toUpper

/-- The pieces of a reply are read one after the other. -/
theorem reply?_eq_some_iff {s : List Char} {a : Activity} :
    reply? s = some a ↔
      ∃ b name b' b'' answer r,
        readAll? Report.replyShape s = some ((Report.reply b name b' b'' answer).parts, r) ∧
          (Report.reply b name b' b'' answer).Says a := by
  simp only [reply?, blanks?, Report.replyShape, Report.parts, Report.Says, Option.bind_eq_bind,
    Option.bind_eq_some_iff, wordsAround?_eq_some_iff, List.cons_append, List.nil_append, readAll?_cons_cons,
    Piece.read?_text, Piece.read?_run, Prod.exists, Option.some.injEq, ← saysMissing_iff]
  constructor
  · rintro ⟨s₁, hreply, b, s₂, hb, name, answer, ⟨b', b'', r, hwords⟩, rfl⟩
    exact ⟨b, name, b', b'', answer, r, ⟨s₁, hreply, s₂, hb, hwords⟩, _, rfl, Iff.rfl⟩
  · rintro ⟨b, name, b', b'', answer, r, ⟨s₁, hreply, s₂, hb, hwords⟩, missing, rfl, hmissing⟩
    refine ⟨s₁, hreply, b, s₂, hb, name, answer, ⟨b', b'', r, hwords⟩, ?_⟩
    rw [Bool.eq_iff_iff.mpr hmissing]

/-- The pieces of what is reported are read one after the other. -/
theorem report_eq_some_iff {t : List Char} {a : Activity} :
    (query? t).or (reply? t) = some a ↔
      ∃ (p : Report) (r : List Char), p.shape.readAll? t = some (p.parts, r) ∧ p.Says a := by
  rw [Option.or_eq_some_iff]
  constructor
  · rintro (hquery | ⟨-, hreply⟩)
    · obtain ⟨type, b, name, b', b'', client, r, hread, hsays⟩ := query?_eq_some_iff.mp hquery
      exact ⟨.query type b name b' b'' client, r, hread, hsays⟩
    · obtain ⟨b, name, b', b'', answer, r, hread, hsays⟩ := reply?_eq_some_iff.mp hreply
      exact ⟨.reply b name b' b'' answer, r, hread, hsays⟩
  · rintro ⟨p, r, hread, hsays⟩
    cases p with
    | query => exact Or.inl (query?_eq_some_iff.mpr ⟨_, _, _, _, _, _, r, hread, hsays⟩)
    | reply =>
      refine Or.inr ⟨?_, reply?_eq_some_iff.mpr ⟨_, _, _, _, _, r, hread, hsays⟩⟩
      -- a text that is reported of as a query is no reply
      rw [Option.eq_none_iff_forall_ne_some]
      intro a' hquery
      obtain ⟨type, b, name, b', b'', client, r', hread', -⟩ := query?_eq_some_iff.mp hquery
      have hquery' : (Report.query type b name b' b'' client).shape.readAll? t =
          some ((Report.query type b name b' b'' client).parts, r') := hread'
      exact absurd (Report.eq_of_readAll? hread hquery').1 (by simp)

/-- **The reader of lines takes the texts that have the form of a line**, and no others. -/
theorem shape?_eq_some_iff {s stamp : List Char} {a : Activity} :
    shape? s = some (stamp, a) ↔
      ∃ f : Form, f.Divides s ∧ f.heading.stamp = stamp ∧ f.report.Says a := by
  simp only [shape?, Option.bind_eq_bind, Option.bind_eq_some_iff, Option.some.injEq, Prod.mk.injEq, Prod.exists,
    heading?_eq_some_iff, report_eq_some_iff, Form.divides_iff]
  constructor
  · rintro ⟨_, t, ⟨h, rfl, hheading⟩, a, ⟨p, r, hreport, hsays⟩, rfl, rfl⟩
    exact ⟨⟨h, p, r⟩, ⟨t, hheading, hreport⟩, rfl, hsays⟩
  · rintro ⟨f, ⟨t, hheading, hreport⟩, rfl, hsays⟩
    exact ⟨_, t, ⟨f.heading, rfl, hheading⟩, a, ⟨f.report, f.rest, hreport, hsays⟩, rfl, rfl⟩

/-! ## What is said of a line -/

/-- Something is reported in every form. -/
theorem exists_says (p : Report) : ∃ a, p.Says a := by
  cases p with
  | query type _ name _ _ client => exact ⟨_, rfl⟩
  | reply _ name _ _ answer => exact ⟨_, saysMissing answer, rfl, saysMissing_iff⟩

/-- A text without a shape has the form of no line. -/
theorem not_divides {s : List Char} (h : shape? s = none) (f : Form) : ¬f.Divides s := by
  intro hf
  obtain ⟨a, ha⟩ := exists_says f.report
  have hshape := shape?_eq_some_iff.mpr ⟨f, hf, rfl, ha⟩
  exact absurd (h.symm.trans hshape) (by simp)

/-- A stamp that is no time is refused as such. -/
theorem exists_timestamp_of_instantIn {zone : Zone} {year : Int} {stamp : List Char} {e : LineError}
    (h : instantIn zone year stamp = .error e) : ∃ detail, e = .timestamp detail := by
  unfold instantIn at h
  split at h
  · exact ⟨_, (Except.error.inj h).symm⟩
  · split at h
    · exact ⟨_, (Except.error.inj h).symm⟩
    · exact absurd h (by simp)

theorem exists_timestamp_of_instant {zone : Zone} {stamp : List Char} {now : Instant} {e : LineError}
    (h : instant zone stamp now = .error e) : ∃ detail, e = .timestamp detail := by
  cases hthis : instantIn zone (zone.yearAt now) stamp with
  | error e' =>
    obtain rfl : e' = e := by simpa [instant, hthis, bind, Except.bind] using h
    exact exists_timestamp_of_instantIn hthis
  | ok t =>
    simp only [instant, hthis, bind, Except.bind] at h
    split at h
    · exact exists_timestamp_of_instantIn h
    · exact absurd h (by simp)

/-- What becomes of a text: it is empty, or has no shape, or has one and is read unless its stamp is no time. -/
theorem parse_cases (zone : Zone) (text : String) (now : Instant) :
    ((∀ c ∈ text.toList, isBlank c = true) ∧ shape? (trim text.toList) = none ∧
        parse zone text now = .error .empty) ∨
      ((∃ c ∈ text.toList, isBlank c = false) ∧ shape? (trim text.toList) = none ∧
        parse zone text now = .error .unmatched) ∨
      ∃ stamp a, shape? (trim text.toList) = some (stamp, a) ∧
        ((∃ t, parse zone text now = .ok ⟨t, a⟩) ∨
          ∃ detail, parse zone text now = .error (.timestamp detail)) := by
  by_cases hblank : ∀ c ∈ text.toList, isBlank c = true
  · have hnil := trim_eq_nil_iff.mpr hblank
    refine Or.inl ⟨hblank, by rw [hnil]; rfl, ?_⟩
    rw [parse, hnil]
    rfl
  · have hne : ¬(trim text.toList).isEmpty = true := by
      rw [List.isEmpty_iff, trim_eq_nil_iff]
      exact hblank
    cases hshape : shape? (trim text.toList) with
    | none =>
      refine Or.inr (Or.inl ⟨by simpa using hblank, rfl, ?_⟩)
      rw [parse, if_neg hne, hshape]
    | some found =>
      obtain ⟨stamp, a⟩ := found
      refine Or.inr (Or.inr ⟨stamp, a, rfl, ?_⟩)
      rw [parse_of_shape? hshape]
      cases ht : instant zone stamp now with
      | ok t => exact Or.inl ⟨t, rfl⟩
      | error e =>
        obtain ⟨detail, rfl⟩ := exists_timestamp_of_instant ht
        exact Or.inr ⟨detail, rfl⟩

/-- A text is empty if it is nothing but blanks. -/
theorem parse_eq_empty_iff {zone : Zone} {text : String} {now : Instant} :
    parse zone text now = .error .empty ↔ ∀ c ∈ text.toList, isBlank c = true := by
  rcases parse_cases zone text now with ⟨hblank, -, hparse⟩ | ⟨⟨c, hc, hword⟩, -, hparse⟩ |
    ⟨stamp, a, hshape, hparse⟩
  · exact iff_of_true hparse hblank
  · refine iff_of_false (by rw [hparse]; simp) fun hblank => ?_
    exact absurd (hword.symm.trans (hblank c hc)) (by simp)
  · refine iff_of_false ?_ fun hblank => ?_
    · rcases hparse with ⟨t, hparse⟩ | ⟨detail, hparse⟩ <;> rw [hparse] <;> simp
    · rw [trim_eq_nil_iff.mpr hblank] at hshape
      exact absurd hshape (by simp [shape?, heading?, stamp?, exactly?])

/-- A text is unmatched if it is something that does not have the form of a line. -/
theorem parse_eq_unmatched_iff {zone : Zone} {text : String} {now : Instant} :
    parse zone text now = .error .unmatched ↔
      (∃ c ∈ text.toList, isBlank c = false) ∧ ∀ f : Form, ¬f.Divides (trim text.toList) := by
  rcases parse_cases zone text now with ⟨hblank, -, hparse⟩ | ⟨hword, hshape, hparse⟩ |
    ⟨stamp, a, hshape, hparse⟩
  · refine iff_of_false (by rw [hparse]; simp) fun h => ?_
    obtain ⟨c, hc, hword⟩ := h.1
    exact absurd (hword.symm.trans (hblank c hc)) (by simp)
  · exact iff_of_true hparse ⟨hword, not_divides hshape⟩
  · refine iff_of_false ?_ fun h => ?_
    · rcases hparse with ⟨t, hparse⟩ | ⟨detail, hparse⟩ <;> rw [hparse] <;> simp
    · obtain ⟨f, hf, -, -⟩ := shape?_eq_some_iff.mp hshape
      exact h.2 f hf

/-- A text that has the form of a line is read as what is reported in it, if its stamp is a time. -/
theorem parse_of_divides {text : String} {f : Form} (h : f.Divides (trim text.toList)) {a : Activity}
    (ha : f.report.Says a) (zone : Zone) (now : Instant) :
    parse zone text now = (instant zone f.heading.stamp now).map fun t => ⟨t, a⟩ :=
  parse_of_shape? (shape?_eq_some_iff.mpr ⟨f, h, rfl, ha⟩) zone now

/-- What is said of a text that is read at `now`, in terms of the grammar: `s` is the text without the blanks around
it. -/
structure Grammatical (zone : Zone) (text : String) (now : Instant) (s : List Char) : Prop where
  /-- A text is empty if it is nothing but blanks. -/
  empty : parse zone text now = .error .empty ↔ ∀ c ∈ text.toList, isBlank c = true
  /-- It is unmatched if it is something that does not have the form of a line. -/
  unmatched : parse zone text now = .error .unmatched ↔
    (∃ c ∈ text.toList, isBlank c = false) ∧ ∀ f : Form, ¬f.Divides s
  /-- If it has the form of a line, it is read as what is reported in that form at the time of its stamp, or refused
  because the stamp is no time. -/
  read : ∀ f : Form, f.Divides s → ∃ a, f.report.Says a ∧
    ((∃ t, instant zone f.heading.stamp now = .ok t ∧ parse zone text now = .ok ⟨t, a⟩) ∨
      ∃ detail, instant zone f.heading.stamp now = .error (.timestamp detail) ∧
        parse zone text now = .error (.timestamp detail))
  /-- Nothing else is read. -/
  only_read : ∀ l, parse zone text now = .ok l → ∃ f : Form, f.Divides s ∧ f.report.Says l.activity
  /-- Nothing else is refused for its stamp. -/
  only_refused : ∀ detail, parse zone text now = .error (.timestamp detail) → ∃ f : Form, f.Divides s
  /-- It has the form of a line in one way at most: as a query or as a reply, and with the same pieces. -/
  unique : ∀ f f' : Form, f.Divides s → f'.Divides s → f = f'

/-- **The parser takes the grammar of lines, and nothing else.** -/
theorem grammatical (zone : Zone) (text : String) (now : Instant) :
    Grammatical zone text now (trim text.toList) where
  empty := parse_eq_empty_iff
  unmatched := parse_eq_unmatched_iff
  read f hf := by
    obtain ⟨a, ha⟩ := exists_says f.report
    refine ⟨a, ha, ?_⟩
    rw [parse_of_divides hf ha]
    cases ht : instant zone f.heading.stamp now with
    | ok t => exact Or.inl ⟨t, rfl, rfl⟩
    | error e =>
      obtain ⟨detail, rfl⟩ := exists_timestamp_of_instant ht
      exact Or.inr ⟨detail, rfl, rfl⟩
  only_read l hl := by
    obtain ⟨stamp, hshape, -⟩ := shape?_of_parse hl
    obtain ⟨f, hf, -, hsays⟩ := shape?_eq_some_iff.mp hshape
    exact ⟨f, hf, hsays⟩
  only_refused detail hd := by
    rcases parse_cases zone text now with ⟨-, -, hparse⟩ | ⟨-, -, hparse⟩ | ⟨stamp, a, hshape, -⟩
    · exact absurd (hparse.symm.trans hd) (by simp)
    · exact absurd (hparse.symm.trans hd) (by simp)
    · obtain ⟨f, hf, -, -⟩ := shape?_eq_some_iff.mp hshape
      exact ⟨f, hf⟩
  unique _ _ := Form.eq_of_divides

end Line

end RouterTelemetry.Dns
