import Mathlib.Data.List.Basic
import Mathlib.Data.List.TakeWhile
import RouterTelemetry.Json.Token
import RouterTelemetry.Proofs.Text.Digits
/-!
# The tokens of a compact text

The compact text of a value is made of the tokens of its parts, if all its numbers are whole. A number or a word ends
only with the character behind it, so that what was found is stated of an automaton that may still be in the middle
of one: it `Holds` some tokens if it has found these whether the text ends or another part comes next. Main
statements:

* `foldlM_renderString` and `foldlM_number` : strings and numbers;
* `foldlM_render` : the automaton finds the tokens of a value.
-/

namespace RouterTelemetry.Json

/-! ## Exact values -/

mutual

/-- Whether a value can be told from its compact text: all its numbers are whole and of at most sixty-four bits, and
nothing in it is unreadable. -/
def isExact : Json → Bool
  | .number (.natural n) => n ≤ maxNatural
  | .number (.negative n) => 0 < n && n ≤ Nat.pow 2 63
  | .number (.real _) => false
  | .unreadable => false
  | .array items => itemsExact items
  | .object members => membersExact members
  | _ => true

/-- Whether all values of a list are exact. -/
def itemsExact : List Json → Bool
  | [] => true
  | v :: rest => isExact v && itemsExact rest

/-- Whether the values of all members are exact. -/
def membersExact : List (String × Json) → Bool
  | [] => true
  | (_, v) :: rest => isExact v && membersExact rest

end

mutual

/-- The tokens of a value. -/
def tokens : Json → List Token
  | .string s => [.string (some s)]
  | .array items => .arrayOpen :: (itemTokens items ++ [.arrayClose])
  | .object members => .objectOpen :: (memberTokens members ++ [.objectClose])
  | v => [.scalar v]

/-- The tokens of the items of an array. -/
def itemTokens : List Json → List Token
  | [] => []
  | [v] => tokens v
  | v :: rest => tokens v ++ .comma :: itemTokens rest

/-- The tokens of the members of an object. -/
def memberTokens : List (String × Json) → List Token
  | [] => []
  | [(k, v)] => .string (some k) :: .colon :: tokens v
  | (k, v) :: rest => .string (some k) :: .colon :: (tokens v ++ .comma :: memberTokens rest)

end

/-! ## Strings -/

section Fold

variable {σ α : Type} {f : σ → α → Option σ} {a b : σ}

theorem foldlM_append_of_some {xs ys : List α} (h : xs.foldlM f a = some b) :
    (xs ++ ys).foldlM f a = ys.foldlM f b := by
  rw [List.foldlM_append, h]
  rfl

theorem foldlM_cons_of_some {x : α} {xs : List α} (h : f a x = some b) :
    (x :: xs).foldlM f a = xs.foldlM f b := by
  rw [List.foldlM_cons, h]
  rfl

end Fold

/-- A hexadecimal digit of an escape. -/
theorem step_unit {ts : List Token} {read : List Piece} {missing value d : Nat} {c : Char}
    (h : hexValue? c = some d) :
    Lexer.step ⟨ts, .unit read missing value⟩ c =
      some (if missing ≤ 1 then ⟨ts, .string (.unit (value * 16 + d) :: read)⟩
        else ⟨ts, .unit read (missing - 1) (value * 16 + d)⟩) := by
  rw [Lexer.step]
  dsimp only
  rw [h, Option.map_some]

/-- **One character of a string.** Escaped or not, it is read as itself. -/
theorem foldlM_escapeChar (ts : List Token) (read : List Piece) (c : Char) :
    ∃ p, (escapeChar c).foldlM Lexer.step ⟨ts, .string read⟩ = some ⟨ts, .string (p :: read)⟩ ∧
      ∀ rest, Piece.chars? (p :: rest) = (Piece.chars? rest).map (c :: ·) := by
  rw [escapeChar]
  split
  · next h => subst h; exact ⟨.char '"', rfl, fun _ => rfl⟩
  split
  · next h => subst h; exact ⟨.char '\\', rfl, fun _ => rfl⟩
  split
  · next h => subst h; exact ⟨.char '\n', rfl, fun _ => rfl⟩
  split
  · next h => subst h; exact ⟨.char '\r', rfl, fun _ => rfl⟩
  split
  · next h => subst h; exact ⟨.char '\t', rfl, fun _ => rfl⟩
  split
  · next h => subst h; exact ⟨.char (Char.ofNat 8), rfl, fun _ => rfl⟩
  split
  · next h => subst h; exact ⟨.char (Char.ofNat 12), rfl, fun _ => rfl⟩
  next hquote hslash _ _ _ _ _ =>
  by_cases hcontrol : c.toNat < 0x20
  · -- two zeros and two hexadecimal digits
    have hhigh : ∀ n < 0x20, hexValue? (if n < 16 then '0' else '1') = some (n / 16) := by decide
    have hlow : ∀ n < 0x20, hexValue? (Nat.digitChar (n % 16)) = some (n % 16) := by decide
    refine ⟨.unit c.toNat, ?_, fun rest => ?_⟩
    · have hsum : (0 * 16 + c.toNat / 16) * 16 + c.toNat % 16 = c.toNat := by omega
      have hmark : ['\\', 'u', '0', '0'].foldlM Lexer.step ⟨ts, .string read⟩ = some ⟨ts, .unit read 2 0⟩ := rfl
      rw [if_pos hcontrol]
      refine (foldlM_append_of_some hmark).trans ?_
      rw [foldlM_cons_of_some (step_unit (hhigh _ hcontrol)), if_neg (by decide),
        foldlM_cons_of_some (step_unit (hlow _ hcontrol)), if_pos (by decide), hsum]
      rfl
    · rw [Piece.chars?.eq_def]
      dsimp only
      rw [if_pos (Or.inl (by omega)), Char.ofNat_toNat]
  · refine ⟨.char c, ?_, fun rest => rfl⟩
    rw [if_neg hcontrol]
    simp [Lexer.step, hquote, hslash, hcontrol]

theorem foldlM_flatMap_escapeChar (ts : List Token) (s : List Char) (read : List Piece) :
    ∃ ps, (s.flatMap escapeChar).foldlM Lexer.step ⟨ts, .string read⟩ = some ⟨ts, .string (ps.reverse ++ read)⟩ ∧
      Piece.chars? ps = some s := by
  induction s generalizing read with
  | nil => exact ⟨[], rfl, rfl⟩
  | cons c s ih =>
    obtain ⟨p, hp, hchar⟩ := foldlM_escapeChar ts read c
    obtain ⟨ps, hps, hchars⟩ := ih (p :: read)
    refine ⟨p :: ps, ?_, by rw [hchar, hchars, Option.map_some]⟩
    rw [List.flatMap_cons, foldlM_append_of_some hp, hps, List.reverse_cons, List.append_assoc,
      List.singleton_append]

/-- **A string is one token.** -/
theorem foldlM_renderString (ts : List Token) (s : String) :
    (renderString s).foldlM Lexer.step ⟨ts, .between⟩ = some ⟨.string (some s) :: ts, .between⟩ := by
  obtain ⟨ps, hps, hchars⟩ := foldlM_flatMap_escapeChar ts s.toList []
  have hopen : Lexer.step ⟨ts, .between⟩ '"' = some ⟨ts, .string []⟩ := rfl
  have hclose : Lexer.step ⟨ts, .string (ps.reverse ++ [])⟩ '"' = some ⟨.string (some s) :: ts, .between⟩ := by
    rw [Lexer.step]
    dsimp only
    rw [if_pos rfl, List.append_nil, List.reverse_reverse, hchars, Option.map_some, String.ofList_toList]
  rw [renderString, foldlM_cons_of_some hopen, foldlM_append_of_some hps, foldlM_cons_of_some hclose]
  rfl

/-- A key with its colon is two tokens. -/
theorem foldlM_renderKey (ts : List Token) (k : String) (s : List Char) :
    (renderString k ++ ':' :: s).foldlM Lexer.step ⟨ts, .between⟩ =
      s.foldlM Lexer.step ⟨.colon :: .string (some k) :: ts, .between⟩ := by
  have hcolon : Lexer.step ⟨.string (some k) :: ts, .between⟩ ':' =
      some ⟨.colon :: .string (some k) :: ts, .between⟩ := rfl
  rw [foldlM_append_of_some (foldlM_renderString ts k), foldlM_cons_of_some hcolon]

/-! ## Numbers -/

/-- A digit begins a number. -/
theorem start_of_isDigit (ts : List Token) {c : Char} (h : isDigit c = true) :
    Lexer.start ts c = some ⟨ts, .number [c]⟩ := by
  have hne (d : Char) (hd : isDigit d = false) : c ≠ d := by
    rintro rfl
    exact absurd (h.symm.trans hd) (by decide)
  rw [Lexer.start, if_neg, if_neg (hne _ rfl), if_neg (hne _ rfl), if_neg (hne _ rfl), if_neg (hne _ rfl),
    if_neg (hne _ rfl), if_neg (hne _ rfl), if_neg (hne _ rfl), if_pos (Or.inr h)]
  rintro (hc | hc | hc | hc)
  · exact hne _ rfl hc
  · exact hne _ rfl hc
  · exact hne _ rfl hc
  · exact hne _ rfl hc

/-- A number goes on with each digit. -/
theorem foldlM_digits (ts : List Token) {ds : List Char} (h : ∀ c ∈ ds, isDigit c = true) (read : List Char) :
    ds.foldlM Lexer.step ⟨ts, .number read⟩ = some ⟨ts, .number (ds.reverse ++ read)⟩ := by
  induction ds generalizing read with
  | nil => rfl
  | cons d ds ih =>
    obtain ⟨hd, hds⟩ := List.forall_mem_cons.mp h
    have hstep : Lexer.step ⟨ts, .number read⟩ d = some ⟨ts, .number (d :: read)⟩ := if_pos (Or.inl hd)
    rw [foldlM_cons_of_some hstep, ih hds, List.reverse_cons, List.append_assoc, List.singleton_append]

theorem isDigit_of_mem_toDigits {n : Nat} {c : Char} (hc : c ∈ Nat.toDigits 10 n) : isDigit c = true :=
  Nat.isDigit_of_mem_toDigits (by decide) (by decide) hc

/-- More digits make no number smaller. -/
theorem le_ofDigitChars (cs : List Char) (n : Nat) : n ≤ Nat.ofDigitChars 10 cs n := by
  induction cs generalizing n with
  | nil => exact Nat.le_refl n
  | cons c cs ih =>
    rw [Nat.ofDigitChars_cons]
    exact Nat.le_trans (by omega) (ih _)

/-- Digits whose value fits are all taken. -/
theorem takeDigits_eq {cs : List Char} {start : Nat} (h : Nat.ofDigitChars 10 cs start ≤ maxNatural) :
    takeDigits start cs = (Nat.ofDigitChars 10 cs start, 0) := by
  induction cs generalizing start with
  | nil => rfl
  | cons c cs ih =>
    rw [Nat.ofDigitChars_cons, Nat.mul_comm] at h ⊢
    have hfits := Nat.le_trans (le_ofDigitChars cs _) h
    rw [takeDigits, if_neg (Nat.not_lt.mpr hfits)]
    exact ih h

/-- No needless zero is written. -/
theorem head?_toDigits (n : Nat) (h : (Nat.toDigits 10 n).head? = some '0') : n = 0 := by
  induction n using Nat.strongRecOn with
  | _ n ih =>
    by_cases hn : n < 10
    · have hdigit : ∀ k < 10, Nat.digitChar k = '0' → k = 0 := by decide
      rw [Nat.toDigits_of_lt_base hn, List.head?_cons, Option.some.injEq] at h
      exact hdigit n hn h
    · rw [Nat.toDigits_of_base_le (by decide) (by omega), List.head?_append_of_ne_nil _ Nat.toDigits_ne_nil] at h
      have := ih (n / 10) (by omega) h
      omega

/-- Digits are read as the value that they denote. -/
theorem unsigned?_toDigits (negative : Bool) (n : Nat) :
    unsigned? negative (Nat.toDigits 10 n) = some (numberValue negative (Nat.toDigits 10 n) none none) := by
  have hall : (Nat.toDigits 10 n).takeWhile isDigit = Nat.toDigits 10 n :=
    List.takeWhile_eq_self_iff.mpr fun _ => isDigit_of_mem_toDigits
  have hrest : (Nat.toDigits 10 n).dropWhile isDigit = [] :=
    List.dropWhile_eq_nil_iff.mpr fun _ => isDigit_of_mem_toDigits
  have hzero : ¬ ((Nat.toDigits 10 n).isEmpty = true ∨
      ((Nat.toDigits 10 n).head? = some '0' ∧ 1 < (Nat.toDigits 10 n).length)) := by
    rintro (hempty | ⟨hhead, hlen⟩)
    · exact Nat.toDigits_ne_nil (List.isEmpty_iff.mp hempty)
    · rw [head?_toDigits n hhead] at hlen
      exact absurd hlen (by decide)
  rw [unsigned?, hall, hrest, if_neg hzero]
  rfl

/-- All digits of a number that fits are taken. -/
theorem takeDigits_toDigits {n : Nat} (h : n ≤ maxNatural) : takeDigits 0 (Nat.toDigits 10 n) = (n, 0) := by
  rw [takeDigits_eq (by rwa [Nat.ofDigitChars_ten_toDigits]), Nat.ofDigitChars_ten_toDigits]

theorem number?_natural {n : Nat} (h : n ≤ maxNatural) :
    number? (Nat.toDigits 10 n) = some (.number (.natural n)) := by
  have hplain : number? (Nat.toDigits 10 n) = unsigned? false (Nat.toDigits 10 n) := by
    obtain ⟨d, tail, hcons⟩ := List.exists_cons_of_ne_nil (Nat.toDigits_ne_nil (b := 10) (n := n))
    have hd : isDigit d = true := isDigit_of_mem_toDigits (n := n) (hcons ▸ List.mem_cons_self ..)
    rw [hcons, number?]
    rintro r hr
    obtain rfl := (List.cons.inj hr).1
    exact absurd hd (by decide)
  rw [hplain, unsigned?_toDigits, numberValue, takeDigits_toDigits h]
  rfl

theorem number?_negative {n : Nat} (hpos : 0 < n) (h : n ≤ Nat.pow 2 63) :
    number? ('-' :: Nat.toDigits 10 n) = some (.number (.negative n)) := by
  have hfits : n ≤ maxNatural := Nat.le_trans h (by decide)
  rw [number?, unsigned?_toDigits, numberValue, takeDigits_toDigits hfits]
  dsimp only
  rw [if_neg (not_not.mpr rfl), if_neg (not_not.mpr rfl), if_neg (by omega), if_pos h]

/-! ## Values -/

/-- The characters that may stand behind a value. -/
def marks : List Char :=
  [',', ']', '\x7d']

/-- Whether the automaton has found some tokens, latest first: they are all if the text ends, and what may stand
behind a value begins anew. -/
def Lexer.Holds (l : Lexer) (ts : List Token) : Prop :=
  l.finish = some ts.reverse ∧ ∀ c ∈ marks, l.step c = Lexer.start ts c

theorem holds_between (ts : List Token) : Lexer.Holds ⟨ts, .between⟩ ts :=
  ⟨rfl, fun _ _ => rfl⟩

theorem holds_word {ts : List Token} {read : List Char} {v : Json} (h : word? read.reverse = some v) :
    Lexer.Holds ⟨ts, .word read⟩ (.scalar v :: ts) := by
  refine ⟨by simp only [Lexer.finish, h, Option.map_some], fun c hc => ?_⟩
  have hletter : marks.all (fun c => ¬('a' ≤ c ∧ c ≤ 'z')) = true := by decide
  rw [Lexer.step]
  dsimp only
  rw [if_neg (of_decide_eq_true (List.all_eq_true.mp hletter c hc)), h, Option.bind_some]

theorem holds_number {ts : List Token} {read : List Char} {v : Json} (h : number? read.reverse = some v) :
    Lexer.Holds ⟨ts, .number read⟩ (.scalar v :: ts) := by
  refine ⟨by simp only [Lexer.finish, h, Option.map_some], fun c hc => ?_⟩
  have hdigit : marks.all (fun c => ¬(isDigit c = true ∨ c = '.' ∨ c = 'e' ∨ c = 'E' ∨ c = '+' ∨ c = '-')) =
      true := by decide
  rw [Lexer.step]
  dsimp only
  rw [if_neg (of_decide_eq_true (List.all_eq_true.mp hdigit c hc)), h, Option.bind_some]

/-- **A number is one token**, which the automaton holds while it waits for more digits. -/
theorem foldlM_renderNumber (ts : List Token) {n : Json.Number} (h : isExact (.number n) = true) :
    ∃ l, (renderNumber n).foldlM Lexer.step ⟨ts, .between⟩ = some l ∧ l.Holds (.scalar (.number n) :: ts) := by
  have hdigits (n : Nat) : ∀ c ∈ Nat.toDigits 10 n, isDigit c = true := fun _ => isDigit_of_mem_toDigits
  cases n with
  | real x => exact absurd h Bool.false_ne_true
  | natural n =>
    have hn : n ≤ maxNatural := of_decide_eq_true h
    obtain ⟨d, tail, hcons⟩ := List.exists_cons_of_ne_nil (Nat.toDigits_ne_nil (b := 10) (n := n))
    have hd := hdigits n
    rw [hcons] at hd
    obtain ⟨hd, htail⟩ := List.forall_mem_cons.mp hd
    refine ⟨⟨ts, .number (tail.reverse ++ [d])⟩, ?_, holds_number ?_⟩
    · rw [renderNumber, hcons]
      exact (foldlM_cons_of_some (start_of_isDigit ts hd)).trans (foldlM_digits ts htail [d])
    · rw [List.reverse_append, List.reverse_reverse, List.reverse_singleton, List.singleton_append, ← hcons]
      exact number?_natural hn
  | negative n =>
    obtain ⟨hpos, hn⟩ := Bool.and_eq_true_iff.mp h
    have hminus : Lexer.step ⟨ts, .between⟩ '-' = some ⟨ts, .number ['-']⟩ := rfl
    refine ⟨⟨ts, .number ((Nat.toDigits 10 n).reverse ++ ['-'])⟩, ?_, holds_number ?_⟩
    · rw [renderNumber, foldlM_cons_of_some hminus, foldlM_digits ts (hdigits n)]
    · rw [List.reverse_append, List.reverse_reverse, List.reverse_singleton, List.singleton_append]
      exact number?_negative (of_decide_eq_true hpos) (of_decide_eq_true hn)

/-- **What comes behind a value.** A mark ends it, and is the next token. -/
theorem foldlM_mark {s rest : List Char} {l l' : Lexer} {ts : List Token} {c : Char} {t : Token}
    (hs : s.foldlM Lexer.step l = some l') (hl : l'.Holds ts) (hc : c ∈ marks)
    (hstart : Lexer.start ts c = some ⟨t :: ts, .between⟩) :
    (s ++ c :: rest).foldlM Lexer.step l = rest.foldlM Lexer.step ⟨t :: ts, .between⟩ := by
  rw [foldlM_append_of_some hs, foldlM_cons_of_some ((hl.2 c hc).trans hstart)]

mutual

/-- **The automaton finds the tokens of a value.** -/
theorem foldlM_render : ∀ (v : Json), isExact v = true → ∀ ts : List Token,
    ∃ l, (render v).foldlM Lexer.step ⟨ts, .between⟩ = some l ∧ l.Holds ((tokens v).reverse ++ ts)
  | .null, _, ts => ⟨⟨ts, .word "null".toList.reverse⟩, rfl, holds_word rfl⟩
  | .bool true, _, ts => ⟨⟨ts, .word "true".toList.reverse⟩, rfl, holds_word rfl⟩
  | .bool false, _, ts => ⟨⟨ts, .word "false".toList.reverse⟩, rfl, holds_word rfl⟩
  | .number _, h, ts => foldlM_renderNumber ts h
  | .string s, _, ts => ⟨_, foldlM_renderString ts s, holds_between _⟩
  | .array items, h, ts => by
    have hopen : Lexer.step ⟨ts, .between⟩ '[' = some ⟨.arrayOpen :: ts, .between⟩ := rfl
    obtain ⟨l, hl, hholds⟩ := foldlM_renderItems items h (.arrayOpen :: ts)
    refine ⟨⟨.arrayClose :: ((itemTokens items).reverse ++ .arrayOpen :: ts), .between⟩, ?_, ?_⟩
    · rw [render, foldlM_cons_of_some hopen, foldlM_mark hl hholds (by decide) rfl]
      rfl
    · rw [tokens, List.reverse_cons, List.reverse_append]
      simpa using holds_between _
  | .object members, h, ts => by
    have hopen : Lexer.step ⟨ts, .between⟩ '\x7b' = some ⟨.objectOpen :: ts, .between⟩ := rfl
    obtain ⟨l, hl, hholds⟩ := foldlM_renderMembers members h (.objectOpen :: ts)
    refine ⟨⟨.objectClose :: ((memberTokens members).reverse ++ .objectOpen :: ts), .between⟩, ?_, ?_⟩
    · rw [render, foldlM_cons_of_some hopen, foldlM_mark hl hholds (by decide) rfl]
      rfl
    · rw [tokens, List.reverse_cons, List.reverse_append]
      simpa using holds_between _
  | .unreadable, h, _ => absurd h Bool.false_ne_true

theorem foldlM_renderItems : ∀ (items : List Json), itemsExact items = true → ∀ ts : List Token,
    ∃ l, (renderItems items).foldlM Lexer.step ⟨ts, .between⟩ = some l ∧ l.Holds ((itemTokens items).reverse ++ ts)
  | [], _, ts => ⟨_, rfl, holds_between ts⟩
  | [v], h, ts => foldlM_render v (Bool.and_eq_true_iff.mp h).1 ts
  | v :: w :: rest, h, ts => by
    obtain ⟨hv, hrest⟩ := Bool.and_eq_true_iff.mp h
    obtain ⟨l, hl, hholds⟩ := foldlM_render v hv ts
    obtain ⟨l', hl', hholds'⟩ := foldlM_renderItems (w :: rest) hrest (.comma :: ((tokens v).reverse ++ ts))
    refine ⟨l', ?_, ?_⟩
    · rw [renderItems, foldlM_mark hl hholds (by decide) rfl, hl']
      · exact List.cons_ne_nil _ _
    · rw [itemTokens, List.reverse_append, List.reverse_cons]
      · simpa using hholds'
      · exact List.cons_ne_nil _ _

theorem foldlM_renderMembers : ∀ (members : List (String × Json)), membersExact members = true →
    ∀ ts : List Token, ∃ l, (renderMembers members).foldlM Lexer.step ⟨ts, .between⟩ = some l ∧
      l.Holds ((memberTokens members).reverse ++ ts)
  | [], _, ts => ⟨_, rfl, holds_between ts⟩
  | [(k, v)], h, ts => by
    obtain ⟨l, hl, hholds⟩ := foldlM_render v (Bool.and_eq_true_iff.mp h).1 (.colon :: .string (some k) :: ts)
    refine ⟨l, ?_, ?_⟩
    · rw [renderMembers, foldlM_renderKey, hl]
    · simpa [memberTokens] using hholds
  | (k, v) :: m :: rest, h, ts => by
    obtain ⟨hv, hrest⟩ := Bool.and_eq_true_iff.mp h
    obtain ⟨l, hl, hholds⟩ := foldlM_render v hv (.colon :: .string (some k) :: ts)
    obtain ⟨l', hl', hholds'⟩ := foldlM_renderMembers (m :: rest) hrest
      (.comma :: ((tokens v).reverse ++ .colon :: .string (some k) :: ts))
    refine ⟨l', ?_, ?_⟩
    · rw [renderMembers, foldlM_renderKey, foldlM_mark hl hholds (by decide) rfl, hl']
      · exact List.cons_ne_nil _ _
    · rw [memberTokens]
      · simpa using hholds'
      · exact List.cons_ne_nil _ _

end

end RouterTelemetry.Json
