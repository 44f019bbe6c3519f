import RouterTelemetry.Proofs.Numeric.Rounding
import RouterTelemetry.Proofs.Retry.Draws
import RouterTelemetry.Retry.Backoff
/-!
# Delays between attempts

Centres and delays are computed in doubles and turned into whole nanoseconds. Each rounding moves a number by at most
one part in `2 ^ 53`, and there are few enough of them for a delay to stay within the jitter around its centre, but for
a nanosecond and one part in `2 ^ 48`. Main statements:

* `abs_seconds_sub_le` and `exists_spanOf?` : spans as seconds in doubles, and back;
* `center_mono` and `center_eq_zero_iff` : centres grow, and are zero just if the base is;
* `abs_drawnSeconds_sub_le` and `abs_delayAround_sub_le` : what a draw selects around a centre;
* `jittered_delay` : the delay before one retry, and `jittered_delaysFrom` : each delay of a schedule;
* `delaysFrom_isPrefix` : schedules for more attempts begin alike;
* `delays_keep_to_centers` : all of this, for each base.
-/

namespace RouterTelemetry.Retry

open Numeric (IsNearest isNearest_natCast isNearest_roundDiv roundRat_zero roundRat_neg roundRat_nonneg roundRat_mono
  abs_roundRat_sub_le)

/-! ## Doubles -/

theorem round_mono : Monotone round :=
  roundRat_mono (by decide)

theorem round_nonneg {q : Rat} (hq : 0 ≤ q) : 0 ≤ round q :=
  roundRat_nonneg (by decide) hq

theorem abs_round_sub_le (q : Rat) : |round q - q| ≤ |q| / 2 ^ 53 :=
  abs_roundRat_sub_le (by decide) q

/-- Rounding a number that is not negative. -/
theorem round_bounds {q : Rat} (hq : 0 ≤ q) : q - q / 2 ^ 53 ≤ round q ∧ round q ≤ q + q / 2 ^ 53 := by
  have h := abs_round_sub_le q
  rw [abs_of_nonneg hq] at h
  have h' := abs_le.mp h
  constructor <;> linarith

/-- A number of at most 1 stays so. -/
theorem abs_round_le_one {q : Rat} (hq : |q| ≤ 1) : |round q| ≤ 1 := by
  have hone : round 1 = 1 := by decide +kernel
  have hneg : round (-1) = -1 := by rw [round, roundRat_neg, ← round, hone]
  have hbounds := abs_le.mp hq
  rw [abs_le, ← hneg]
  constructor
  · exact round_mono hbounds.1
  · exact (round_mono hbounds.2).trans_eq hone

/-! ## Spans in seconds -/

theorem seconds_nonneg (span : Nat) : 0 ≤ seconds span := by
  have hfraction : (0 : Rat) ≤ ((span % 1000000000 : Nat) : Int) / (1000000000 : Int) := by positivity
  have hwhole : (0 : Rat) ≤ ((span / 1000000000 : Nat) : Int) := by positivity
  exact round_nonneg (add_nonneg (round_nonneg hwhole) (round_nonneg hfraction))

/-- **A span in seconds** is off by less than three roundings: the whole seconds, the fraction and their sum are
rounded. -/
theorem abs_seconds_sub_le (span : Nat) :
    |seconds span - (span : Rat) / 1000000000| ≤ 3 * ((span : Rat) / 1000000000) / 2 ^ 53 := by
  obtain ⟨w, hw⟩ : ∃ w : Rat, ((span / 1000000000 : Nat) : Int) = w := ⟨_, rfl⟩
  obtain ⟨f, hf⟩ : ∃ f : Rat, ((span % 1000000000 : Nat) : Int) / ((1000000000 : Int) : Rat) = f := ⟨_, rfl⟩
  have hsum : (span : Rat) / 1000000000 = w + f := by
    have h : (span : Rat) = (1000000000 * (span / 1000000000) + span % 1000000000 : Nat) := by
      rw [Nat.div_add_mod]
    rw [h, ← hw, ← hf, Nat.cast_add, Nat.cast_mul, Int.cast_natCast, Int.cast_natCast, Nat.cast_ofNat,
      Int.cast_ofNat, add_div, mul_div_cancel_left₀ _ (by norm_num)]
  have hw0 : 0 ≤ w := by rw [← hw]; positivity
  have hf0 : 0 ≤ f := by rw [← hf]; positivity
  have hwhole := round_bounds hw0
  have hfraction := round_bounds hf0
  have hboth := round_bounds (add_nonneg (round_nonneg hw0) (round_nonneg hf0))
  rw [seconds, hw, hf, hsum, abs_le]
  constructor <;> linarith

/-- **The span of a number of seconds** is nearest to it, if it is not too long. -/
theorem exists_spanOf? {q : Rat} (hq : 0 ≤ q) :
    ∃ n, IsNearest n (q * 1000000000) ∧ spanOf? q = if n ≤ maxSpan then some n else none := by
  refine ⟨_, ?_, rfl⟩
  have hvalue : q * 1000000000 = (q.num.toNat * 1000000000 : Nat) / (q.den : Rat) := by
    have hnum : ((q.num.toNat : Nat) : Rat) = q.num := by
      exact_mod_cast congrArg (Int.cast (R := Rat)) (Int.toNat_of_nonneg (Rat.num_nonneg.mpr hq))
    push_cast
    rw [hnum, mul_div_right_comm, Rat.num_div_den]
  rw [hvalue]
  exact isNearest_roundDiv _ q.den_pos

/-! ## Centres -/

/-- A centre is the span nearest to the doubled base, or the longest one. -/
theorem exists_center (attempt base : Nat) :
    ∃ n, IsNearest n (round (seconds base * 2 ^ min attempt maxDoublings) * 1000000000) ∧
      center attempt base = min n maxSpan := by
  have hq : 0 ≤ round (seconds base * 2 ^ min attempt maxDoublings) :=
    round_nonneg (mul_nonneg (seconds_nonneg base) (by positivity))
  obtain ⟨n, hn, hspan⟩ := exists_spanOf? hq
  refine ⟨n, hn, ?_⟩
  rw [center, Nat.pow_eq, Nat.cast_pow, Nat.cast_ofNat, hspan]
  split
  case isTrue h => rw [Option.getD_some, min_eq_left h]
  case isFalse h => rw [Option.getD_none, min_eq_right (not_le.mp h).le]

theorem center_le (attempt base : Nat) : center attempt base ≤ maxSpan := by
  obtain ⟨n, -, hcenter⟩ := exists_center attempt base
  rw [hcenter]
  exact min_le_right n maxSpan

/-- **Centres grow.** -/
theorem center_mono (base : Nat) : Monotone fun attempt => center attempt base := by
  intro a b h
  obtain ⟨m, hm, ha⟩ := exists_center a base
  obtain ⟨n, hn, hb⟩ := exists_center b base
  have hfactor : (2 : Rat) ^ min a maxDoublings ≤ 2 ^ min b maxDoublings :=
    pow_le_pow_right₀ one_le_two (min_le_min_right maxDoublings h)
  have hdoubled := round_mono (mul_le_mul_of_nonneg_left hfactor (seconds_nonneg base))
  have hle : m ≤ n := hm.le_of_le hn (by linarith)
  show center a base ≤ center b base
  rw [ha, hb]
  exact min_le_min_right maxSpan hle

/-- Half a second is doubled with each attempt. -/
example : (List.range 4).map (center · 500000000) = [500000000, 1000000000, 2000000000, 4000000000] := by
  decide +kernel

/-- **A centre is zero just if the base is.** -/
theorem center_eq_zero_iff (attempt base : Nat) : center attempt base = 0 ↔ base = 0 := by
  obtain ⟨n, hn, hcenter⟩ := exists_center attempt base
  have hseconds := abs_le.mp (abs_seconds_sub_le base)
  have hspan : maxSpan ≠ 0 := by decide
  rw [hcenter]
  constructor
  · -- a nanosecond and more stays above half a nanosecond
    intro hzero
    have hn0 : n = 0 := by omega
    by_contra hbase
    have hone : (1 : Rat) ≤ base := by exact_mod_cast Nat.one_le_iff_ne_zero.mpr hbase
    have hfactor : (1 : Rat) ≤ 2 ^ min attempt maxDoublings := one_le_pow₀ one_le_two
    have hdoubled := le_mul_of_one_le_right (seconds_nonneg base) hfactor
    have hround := round_bounds ((seconds_nonneg base).trans hdoubled)
    have hnear := abs_le.mp hn.near
    rw [hn0, Nat.cast_zero] at hnear
    linarith
  · rintro rfl
    have hzero : seconds 0 = 0 := by
      rw [Nat.cast_zero, zero_div] at hseconds
      linarith
    rw [hzero, zero_mul, round, roundRat_zero, zero_mul] at hn
    have hle := hn.le_of_le (isNearest_natCast 0) Nat.cast_zero.ge
    omega

/-! ## Delays around a centre -/

/-- The number of seconds around a centre that a draw selects, before it is turned into a span. -/
def drawnSeconds (center : Nat) (draw : Rat) : Rat :=
  round (seconds center + round (round (round (draw * 2) - 1) * round (seconds center * jitter)))

theorem jitter_bounds : 0 ≤ jitter ∧ jitter ≤ 3 / 10 := by
  decide +kernel

/-- A draw selects at most the whole spread, in either direction. -/
theorem abs_factor_le {u : Rat} (hu : 0 ≤ u) (hu' : u ≤ 1) : |round (round (u * 2) - 1)| ≤ 1 := by
  have htwo : round 2 = 2 := by decide +kernel
  have hlow : 0 ≤ round (u * 2) := round_nonneg (by linarith)
  have hhigh : round (u * 2) ≤ 2 := (round_mono (by linarith)).trans_eq htwo
  apply abs_round_le_one
  rw [abs_le]
  constructor <;> linarith

/-- The spread is three tenths of the centre, but for a rounding: three tenths themselves are rounded down. -/
theorem spread_bounds (center : Nat) :
    0 ≤ round (seconds center * jitter) ∧
      round (seconds center * jitter) ≤ (3 / 10 + 1 / 2 ^ 53) * seconds center := by
  have hseconds := seconds_nonneg center
  have hnonneg := mul_nonneg hseconds jitter_bounds.1
  have hle := mul_le_mul_of_nonneg_left jitter_bounds.2 hseconds
  have hround := round_bounds hnonneg
  constructor <;> linarith

/-- **What a draw selects** lies within the jitter around the centre, but for the roundings. -/
theorem abs_drawnSeconds_sub_le (center : Nat) {u : Rat} (hu : 0 ≤ u) (hu' : u ≤ 1) :
    |drawnSeconds center u - (center : Rat) / 1000000000| ≤
      (3 / 10 + 1 / 2 ^ 48) * ((center : Rat) / 1000000000) := by
  have hseconds := abs_le.mp (abs_seconds_sub_le center)
  have hspread := spread_bounds center
  obtain ⟨p, hp⟩ : ∃ p, round (seconds center * jitter) = p := ⟨_, rfl⟩
  obtain ⟨f, hf⟩ : ∃ f, round (round (u * 2) - 1) = f := ⟨_, rfl⟩
  rw [hp] at hspread
  have hpart : |f * p| ≤ p := by
    rw [abs_mul, abs_of_nonneg hspread.1, ← hf]
    exact mul_le_of_le_one_left hspread.1 (abs_factor_le hu hu')
  -- what is left is linear in the centre: its seconds, the offset and their sum are each off by a few roundings
  have hoffset := abs_le.mp (abs_round_sub_le (f * p))
  have hpart' := abs_le.mp hpart
  have hsum : 0 ≤ seconds center + round (f * p) := by linarith
  have hround := round_bounds hsum
  rw [drawnSeconds, hp, hf, abs_le]
  constructor <;> linarith

theorem drawnSeconds_nonneg (center : Nat) {u : Rat} (hu : 0 ≤ u) (hu' : u ≤ 1) : 0 ≤ drawnSeconds center u := by
  have h := abs_le.mp (abs_drawnSeconds_sub_le center hu hu')
  have hcenter : (0 : Rat) ≤ (center : Rat) / 1000000000 := by positivity
  linarith

/-- A delay is nearest to what a draw selects, or stays at the centre where that is too long. -/
theorem exists_delayAround (center : Nat) {u : Rat} (hu : 0 ≤ u) (hu' : u ≤ 1) :
    ∃ n, IsNearest n (drawnSeconds center u * 1000000000) ∧
      delayAround center u = if center = 0 then 0 else if n ≤ maxSpan then n else center := by
  have hnonneg := drawnSeconds_nonneg center hu hu'
  obtain ⟨n, hn, hspan⟩ := exists_spanOf? hnonneg
  refine ⟨n, hn, ?_⟩
  have hdelay : delayAround center u = if center = 0 then 0 else
      (spanOf? (if 0 ≤ drawnSeconds center u then drawnSeconds center u else 0)).getD center := rfl
  rw [hdelay, if_pos hnonneg, hspan, apply_ite (Option.getD · center)]
  rfl

theorem delayAround_zero (u : Rat) : delayAround 0 u = 0 :=
  if_pos rfl

theorem delayAround_le {center : Nat} (hcenter : center ≤ maxSpan) {u : Rat} (hu : 0 ≤ u) (hu' : u ≤ 1) :
    delayAround center u ≤ maxSpan := by
  obtain ⟨n, -, hdelay⟩ := exists_delayAround center hu hu'
  rw [hdelay]
  split_ifs <;> omega

/-- **A delay lies within the jitter around its centre,** but for the roundings and half a nanosecond. -/
theorem abs_delayAround_sub_le (center : Nat) {u : Rat} (hu : 0 ≤ u) (hu' : u ≤ 1) :
    |(delayAround center u : Rat) - center| ≤ 3 / 10 * center + center / 2 ^ 48 + 1 / 2 := by
  obtain ⟨n, hn, hdelay⟩ := exists_delayAround center hu hu'
  have hnonneg : (0 : Rat) ≤ center := by positivity
  have hseconds := abs_le.mp (abs_drawnSeconds_sub_le center hu hu')
  have hnear := abs_le.mp hn.near
  rw [hdelay, abs_le]
  split_ifs with hzero
  · rw [hzero]
    norm_num
  · constructor <;> linarith
  · constructor <;> linarith

theorem delayAround_eq_zero_iff (center : Nat) {u : Rat} (hu : 0 ≤ u) (hu' : u ≤ 1) :
    delayAround center u = 0 ↔ center = 0 := by
  constructor
  · intro hzero
    by_contra hcenter
    have hone : (1 : Rat) ≤ center := by exact_mod_cast Nat.one_le_iff_ne_zero.mpr hcenter
    have h := abs_le.mp (abs_delayAround_sub_le center hu hu')
    rw [hzero, Nat.cast_zero] at h
    linarith
  · rintro rfl
    exact delayAround_zero u

/-! ## Delays -/

theorem delay_eq (attempt base : Nat) (g : Generator) :
    delay attempt base g = if center attempt base = 0 then (0, g)
      else (delayAround (center attempt base) g.draw.1, g.draw.2) := by
  unfold delay
  -- neither the centre nor the draw is to be computed
  generalize center attempt base = c
  generalize g.draw = drawn
  obtain ⟨u, next⟩ := drawn
  rfl

/-- A delay that may be waited before a retry: nothing just if the base is nothing, and within the jitter around the
centre but for a nanosecond and what the roundings come to. -/
structure Jittered (base attempt delay : Nat) : Prop where
  zero_iff : delay = 0 ↔ base = 0
  near : |(delay : Rat) - center attempt base| ≤
    3 / 10 * center attempt base + center attempt base / 2 ^ 48 + 1
  valid : delay ≤ maxSpan

/-- Whatever is drawn. -/
theorem jittered_delayAround (base attempt : Nat) {u : Rat} (hu : 0 ≤ u) (hu' : u ≤ 1) :
    Jittered base attempt (delayAround (center attempt base) u) := by
  constructor
  case zero_iff => rw [delayAround_eq_zero_iff _ hu hu', center_eq_zero_iff]
  case near =>
    have h := abs_delayAround_sub_le (center attempt base) hu hu'
    linarith
  case valid => exact delayAround_le (center_le attempt base) hu hu'

/-- **The delay before a retry.** -/
theorem jittered_delay (base attempt : Nat) (g : Generator) : Jittered base attempt (delay attempt base g).1 := by
  have h := jittered_delayAround base attempt g.draw_bounds.1 g.draw_bounds.2.le
  rw [delay_eq]
  by_cases hzero : center attempt base = 0
  · rw [hzero, delayAround_zero] at h
    rw [if_pos hzero]
    exact h
  · rw [if_neg hzero]
    exact h

/-! ## Schedules -/

/-- **Each delay of a schedule** keeps to the centre of its own attempt. -/
theorem jittered_delaysFrom {base attempt count i d : Nat} {g : Generator}
    (h : (delaysFrom base attempt count g)[i]? = some d) : Jittered base (attempt + i) d := by
  induction count generalizing attempt i g with
  | zero => exact absurd h (by simp [delaysFrom])
  | succ count ih =>
    rw [delaysFrom] at h
    cases i with
    | zero =>
      rw [List.getElem?_cons_zero, Option.some.injEq] at h
      rw [← h]
      exact jittered_delay base attempt g
    | succ i =>
      rw [List.getElem?_cons_succ] at h
      have hnext := ih h
      rwa [Nat.add_right_comm] at hnext

/-- **Schedules for more attempts begin alike.** -/
theorem delaysFrom_isPrefix {m n : Nat} (h : m ≤ n) (base attempt : Nat) (g : Generator) :
    delaysFrom base attempt m g <+: delaysFrom base attempt n g := by
  induction m generalizing n attempt g with
  | zero => exact List.nil_prefix
  | succ m ih =>
    obtain ⟨k, rfl⟩ : ∃ k, n = k + 1 := Nat.exists_eq_add_one.mpr (by omega)
    rw [delaysFrom, delaysFrom, List.prefix_cons_inj]
    exact ih (Nat.le_of_succ_le_succ h) (attempt + 1) _

/-- **Delays keep to centres that grow.** For every base, the centres do not shrink from attempt to attempt; whatever is
drawn, a delay is nothing just if the base is, lies within three tenths of its centre but for a nanosecond and the
roundings, and is not too long for a span, even where the centre is the longest one; so does each delay of a schedule
with the centre of its own attempt; and more attempts only add delays to a schedule. -/
theorem delays_keep_to_centers (base : Nat) :
    (∀ a b, a ≤ b → center a base ≤ center b base) ∧
    (∀ attempt (draw : Rat), 0 ≤ draw → draw < 1 →
      Jittered base attempt (delayAround (center attempt base) draw)) ∧
    (∀ attempt g, Jittered base attempt (delay attempt base g).1) ∧
    (∀ attempts g (i d : Nat), (schedule base attempts g)[i]? = some d → Jittered base i d) ∧
    ∀ m n g, max 1 m ≤ n → schedule base m g <+: schedule base n g := by
  refine ⟨fun a b h => center_mono base h, ?_, jittered_delay base, ?_, ?_⟩
  · intro attempt draw hnonneg hlt
    exact jittered_delayAround base attempt hnonneg hlt.le
  · intro attempts g i d h
    have hdelay := jittered_delaysFrom h
    rwa [Nat.zero_add] at hdelay
  · intro m n g h
    exact delaysFrom_isPrefix (by omega) base 0 g

/-- The longest span as the base: in seconds it is rounded up, so its centre is as long as can be. A draw that lengthens
it further leaves it at the centre. -/
theorem delays_keep_to_longest_span :
    ((2 : Nat) ≤ 5 ∧ center 2 maxSpan ≤ center 5 maxSpan) ∧
    ((0 : Rat) ≤ 3 / 4 ∧ (3 / 4 : Rat) < 1 ∧ delayAround (center 0 maxSpan) (3 / 4) = maxSpan ∧
      Jittered maxSpan 0 (delayAround (center 0 maxSpan) (3 / 4))) ∧
    (∃ d : Nat, (schedule maxSpan 0 ⟨7⟩)[0]? = some d ∧ Jittered maxSpan 0 d) ∧
    (max 1 0 ≤ 3 ∧ schedule maxSpan 0 ⟨7⟩ <+: schedule maxSpan 3 ⟨7⟩) := by
  obtain ⟨hcenters, hdraws, -, hdelays, hschedules⟩ := delays_keep_to_centers maxSpan
  have hstays : delayAround (center 0 maxSpan) (3 / 4) = maxSpan := by decide +kernel
  refine ⟨⟨by decide, hcenters 2 5 (by decide)⟩, ⟨by norm_num, by norm_num, hstays, ?_⟩, ⟨_, rfl, ?_⟩, by decide, ?_⟩
  · exact hdraws 0 (3 / 4) (by norm_num) (by norm_num)
  · exact hdelays 0 ⟨7⟩ 0 _ rfl
  · exact hschedules 0 3 ⟨7⟩ (by decide)

end RouterTelemetry.Retry
