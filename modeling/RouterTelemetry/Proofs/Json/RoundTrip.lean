import RouterTelemetry.Json.Reader
import RouterTelemetry.Proofs.Json.Tokens
/-!
# Values survive as text

A value is read back from its tokens, and so from its compact text, if that is exact. Main statements:

* `foldlM_tokens` : the reader completes a value with its last token;
* `parse?_render` : the compact text of an exact value is read as that value.
-/

namespace RouterTelemetry.Json

open Reader (complete)

/-- Whether a value may come next. -/
def Expect.allowsValue : Expect → Bool
  | .value => true
  | .valueOrClose => true
  | _ => false

/-- Whether a key may come next. -/
def Expect.allowsKey : Expect → Bool
  | .key => true
  | .keyOrClose => true
  | _ => false

theorem step_of_allowsValue {e : Expect} (he : e.allowsValue = true) (frames : List Frame) {t : Token}
    (ht : t ≠ .arrayClose) : Reader.step ⟨frames, e⟩ t = Reader.value frames t := by
  cases e with
  | value => rfl
  | valueOrClose => cases t <;> first | rfl | exact absurd rfl ht
  | _ => exact absurd he Bool.false_ne_true

/-- A key with its colon, where a key may come next, waits for its value. -/
theorem foldlM_key {e : Expect} (he : e.allowsKey = true) (done : List (String × Json)) (frames : List Frame)
    (k : String) (ts : List Token) :
    (.string (some k) :: .colon :: ts).foldlM Reader.step ⟨.members done none true :: frames, e⟩ =
      ts.foldlM Reader.step ⟨.members done (some k) true :: frames, .value⟩ := by
  cases e with
  | key => rfl
  | keyOrClose => rfl
  | _ => exact absurd he Bool.false_ne_true

mutual

/-- **The reader completes a value with its last token**, wherever a value may stand. -/
theorem foldlM_tokens : ∀ (v : Json) (frames : List Frame) (e : Expect), e.allowsValue = true →
    (tokens v).foldlM Reader.step ⟨frames, e⟩ = some (complete frames v)
  | .null, frames, _, he => foldlM_cons_of_some (step_of_allowsValue he frames (by simp))
  | .bool _, frames, _, he => foldlM_cons_of_some (step_of_allowsValue he frames (by simp))
  | .number _, frames, _, he => foldlM_cons_of_some (step_of_allowsValue he frames (by simp))
  | .unreadable, frames, _, he => foldlM_cons_of_some (step_of_allowsValue he frames (by simp))
  | .string _, frames, _, he => foldlM_cons_of_some (step_of_allowsValue he frames (by simp))
  | .array [], frames, e, he => by
    have hopen : Reader.step ⟨frames, e⟩ .arrayOpen = some ⟨.items [] :: frames, .valueOrClose⟩ :=
      step_of_allowsValue he frames (by simp)
    exact foldlM_cons_of_some hopen
  | .array (v :: rest), frames, e, he => by
    have hopen : Reader.step ⟨frames, e⟩ .arrayOpen = some ⟨.items [] :: frames, .valueOrClose⟩ :=
      step_of_allowsValue he frames (by simp)
    have hitems := foldlM_itemTokens (v :: rest) (List.cons_ne_nil _ _) [] frames .valueOrClose rfl
    rw [tokens, foldlM_cons_of_some hopen, foldlM_append_of_some hitems]
    show some (complete frames (.array ((v :: rest).reverse ++ []).reverse)) = _
    rw [List.append_nil, List.reverse_reverse]
  | .object [], frames, e, he => by
    have hopen : Reader.step ⟨frames, e⟩ .objectOpen = some ⟨.members [] none true :: frames, .keyOrClose⟩ :=
      step_of_allowsValue he frames (by simp)
    exact foldlM_cons_of_some hopen
  | .object (m :: rest), frames, e, he => by
    have hopen : Reader.step ⟨frames, e⟩ .objectOpen = some ⟨.members [] none true :: frames, .keyOrClose⟩ :=
      step_of_allowsValue he frames (by simp)
    have hmembers := foldlM_memberTokens (m :: rest) (List.cons_ne_nil _ _) [] frames .keyOrClose rfl
    rw [tokens, foldlM_cons_of_some hopen, foldlM_append_of_some hmembers]
    show some (complete frames (.object ((m :: rest).reverse ++ []).reverse)) = _
    rw [List.append_nil, List.reverse_reverse]

theorem foldlM_itemTokens : ∀ items : List Json, items ≠ [] → ∀ (done : List Json) (frames : List Frame)
    (e : Expect), e.allowsValue = true → (itemTokens items).foldlM Reader.step ⟨.items done :: frames, e⟩ =
      some ⟨.items (items.reverse ++ done) :: frames, .commaOrClose⟩
  | [], h, _, _, _, _ => absurd rfl h
  | [v], _, done, frames, e, he => foldlM_tokens v (.items done :: frames) e he
  | v :: w :: rest, _, done, frames, e, he => by
    have hcomma : Reader.step ⟨.items (v :: done) :: frames, .commaOrClose⟩ .comma =
        some ⟨.items (v :: done) :: frames, .value⟩ := rfl
    have hrest := foldlM_itemTokens (w :: rest) (List.cons_ne_nil _ _) (v :: done) frames .value rfl
    rw [itemTokens, foldlM_append_of_some (foldlM_tokens v (.items done :: frames) e he)]
    · refine (foldlM_cons_of_some hcomma).trans ?_
      rw [hrest, List.reverse_cons (a := v), List.append_assoc, List.singleton_append]
    · exact List.cons_ne_nil _ _

theorem foldlM_memberTokens : ∀ members : List (String × Json), members ≠ [] →
    ∀ (done : List (String × Json)) (frames : List Frame) (e : Expect), e.allowsKey = true →
    (memberTokens members).foldlM Reader.step ⟨.members done none true :: frames, e⟩ =
      some ⟨.members (members.reverse ++ done) none true :: frames, .commaOrClose⟩
  | [], h, _, _, _, _ => absurd rfl h
  | [(k, v)], _, done, frames, e, he => by
    rw [memberTokens, foldlM_key he, foldlM_tokens v _ .value rfl]
    rfl
  | (k, v) :: m :: rest, _, done, frames, e, he => by
    have hcomma : Reader.step ⟨.members ((k, v) :: done) none true :: frames, .commaOrClose⟩ .comma =
        some ⟨.members ((k, v) :: done) none true :: frames, .key⟩ := rfl
    have hrest := foldlM_memberTokens (m :: rest) (List.cons_ne_nil _ _) ((k, v) :: done) frames .key rfl
    rw [memberTokens, foldlM_key he, foldlM_append_of_some (foldlM_tokens v _ .value rfl)]
    · refine (foldlM_cons_of_some hcomma).trans ?_
      rw [hrest, List.reverse_cons (a := (k, v)), List.append_assoc, List.singleton_append]
    · exact List.cons_ne_nil _ _

end

/-- A value is read from its tokens. -/
theorem ofTokens?_tokens (v : Json) : ofTokens? (tokens v) = some v := by
  rw [ofTokens?, Reader.initial, foldlM_tokens v [] .value rfl]
  rfl

/-- A value is made of its tokens, if it is exact. -/
theorem tokens?_render {v : Json} (h : isExact v = true) : tokens? (render v) = some (tokens v) := by
  obtain ⟨l, hl, hholds, -⟩ := foldlM_render v h []
  rw [tokens?, hl, Option.bind_some, hholds, List.append_nil, List.reverse_reverse]

/-- **The compact text of an exact value is read as that value.** -/
theorem parse?_render {v : Json} (h : isExact v = true) : parse? (render v) = some v := by
  rw [parse?, tokens?_render h, Option.bind_some, ofTokens?_tokens]

mutual

/-- Nothing in an exact value is unreadable. -/
theorem isReadable_of_isExact : ∀ v : Json, isExact v = true → isReadable v = true
  | .null, _ => rfl
  | .bool _, _ => rfl
  | .number _, _ => rfl
  | .string _, _ => rfl
  | .array items, h => itemsReadable_of_itemsExact items h
  | .object members, h => membersReadable_of_membersExact members h
  | .unreadable, h => h

theorem itemsReadable_of_itemsExact : ∀ items : List Json, itemsExact items = true → itemsReadable items = true
  | [], _ => rfl
  | v :: rest, h => by
    obtain ⟨hv, hrest⟩ := Bool.and_eq_true_iff.mp h
    rw [itemsReadable, isReadable_of_isExact v hv, itemsReadable_of_itemsExact rest hrest, Bool.and_true]

theorem membersReadable_of_membersExact : ∀ members : List (String × Json), membersExact members = true →
    membersReadable members = true
  | [], _ => rfl
  | (_, v) :: rest, h => by
    obtain ⟨hv, hrest⟩ := Bool.and_eq_true_iff.mp h
    rw [membersReadable, isReadable_of_isExact v hv, membersReadable_of_membersExact rest hrest, Bool.and_true]

end

end RouterTelemetry.Json
