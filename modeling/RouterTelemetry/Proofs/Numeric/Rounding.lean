import Mathlib.Algebra.Order.Field.Power
import Mathlib.Order.Monotone.Odd
import Mathlib.Algebra.Order.Ring.Rat
import Mathlib.Tactic.FieldSimp
import Mathlib.Tactic.Linarith
import Mathlib.Tactic.Positivity
import RouterTelemetry.Numeric.Rounding
/-!
# Rounding to nearest

What rounding comes to, as statements about rational numbers: `IsNearest` for whole numbers, `Rounds` for numbers of so
many binary digits. Main statements:

* `isNearest_roundDiv` and `isNearest_roundDivAt` : quotients, and quotients in units of a power of two;
* `unitExponent_bounds` : the unit in which a quotient has so many digits before the point;
* `exists_rounds` : what a number above 0 is rounded to;
* `abs_roundRat_sub_le` : how far rounding moves a number;
* `roundRat_mono` : rounding keeps the order.
-/

namespace RouterTelemetry.Numeric

/-! ## Nearest integers -/

/-- `n` is the natural number nearest to `q`, of two equally near ones the even one. -/
structure IsNearest (n : Nat) (q : Rat) : Prop where
  near : |(n : Rat) - q| ≤ 1 / 2
  even : |(n : Rat) - q| = 1 / 2 → n % 2 = 0

/-- A whole number is nearest to itself. -/
theorem isNearest_natCast (n : Nat) : IsNearest n n := by
  have hzero : |(n : Rat) - n| = 0 := by rw [sub_self, abs_zero]
  constructor
  · rw [hzero]
    norm_num
  · intro h
    rw [hzero] at h
    norm_num at h

/-- Nearest numbers keep the order. -/
theorem IsNearest.le_of_le {m n : Nat} {p q : Rat} (hm : IsNearest m p) (hn : IsNearest n q) (h : p ≤ q) :
    m ≤ n := by
  by_contra hlt
  have hstep : (n : Rat) + 1 ≤ m := by exact_mod_cast Nat.lt_of_not_le hlt
  have hp := abs_le.mp hm.near
  have hq := abs_le.mp hn.near
  -- both are halfway between `n` and `n + 1`, so both choices are even
  have hhigh : |(m : Rat) - p| = 1 / 2 := by
    rw [abs_of_nonneg (by linarith)]
    linarith
  have hlow : |(n : Rat) - q| = 1 / 2 := by
    rw [abs_of_nonpos (by linarith)]
    linarith
  have hnext : (m : Rat) = (n + 1 : Nat) := by
    push_cast
    linarith
  have hm' := hm.even hhigh
  have hn' := hn.even hlow
  have hnext' : m = n + 1 := by exact_mod_cast hnext
  omega

theorem half_lt_div_iff (r : Nat) {b : Nat} (hb : 0 < b) : 1 / 2 < (r : Rat) / b ↔ b < 2 * r := by
  have hb' : (0 : Rat) < b := by exact_mod_cast hb
  rw [div_lt_div_iff₀ two_pos hb', one_mul, mul_comm (r : Rat)]
  exact_mod_cast Iff.rfl

theorem div_eq_half_iff (r : Nat) {b : Nat} (hb : 0 < b) : (r : Rat) / b = 1 / 2 ↔ 2 * r = b := by
  have hb' : (b : Rat) ≠ 0 := by exact_mod_cast hb.ne'
  rw [div_eq_div_iff hb' two_ne_zero, one_mul, mul_comm (r : Rat)]
  exact_mod_cast Iff.rfl

/-- **Rounding a quotient.** -/
theorem isNearest_roundDiv (a : Nat) {b : Nat} (hb : 0 < b) : IsNearest (roundDiv a b) (a / b) := by
  have hb' : (0 : Rat) < b := by exact_mod_cast hb
  obtain ⟨q, hq⟩ : ∃ q, a / b = q := ⟨_, rfl⟩
  obtain ⟨r, hr⟩ : ∃ r, a % b = r := ⟨_, rfl⟩
  have hlt : r < b := hr ▸ Nat.mod_lt a hb
  have hvalue : (a : Rat) / b = q + r / b := by
    have hsum : b * q + r = a := by rw [← hq, ← hr, Nat.div_add_mod]
    rw [← hsum]
    push_cast
    field_simp
  -- the part behind the point decides
  have hnonneg : (0 : Rat) ≤ r / b := by positivity
  have hone : (r : Rat) / b < 1 := by
    rw [div_lt_one hb']
    exact_mod_cast hlt
  have hover := half_lt_div_iff r hb
  have hhalf := div_eq_half_iff r hb
  unfold roundDiv
  rw [hq, hr, hvalue]
  dsimp only
  split
  case isTrue hup =>
    have hlow : 1 / 2 ≤ (r : Rat) / b := by
      rcases hup with h | h
      · exact (hover.mpr h).le
      · exact (hhalf.mpr h.1).ge
    have hdiff : |((q + 1 : Nat) : Rat) - (q + r / b)| = 1 - r / b := by
      rw [abs_of_nonneg] <;> push_cast <;> linarith
    constructor <;> rw [hdiff]
    · linarith
    · intro h
      have htie := hhalf.mp (by linarith)
      omega
  case isFalse hdown =>
    have hhigh : (r : Rat) / b ≤ 1 / 2 := not_lt.mp fun h => hdown (.inl (hover.mp h))
    have hdiff : |(q : Rat) - (q + r / b)| = r / b := by
      rw [sub_add_cancel_left, abs_neg, abs_of_nonneg hnonneg]
    constructor <;> rw [hdiff]
    · exact hhigh
    · intro h
      have htie := hhalf.mp h
      omega

/-- Rounding a quotient in units of a power of two. -/
theorem isNearest_roundDivAt (e : Int) (a : Nat) {b : Nat} (hb : 0 < b) :
    IsNearest (roundDivAt e a b) (a / b / 2 ^ e) := by
  unfold roundDivAt
  split
  case isTrue he =>
    obtain ⟨k, rfl⟩ := Int.eq_ofNat_of_zero_le he
    have hdiv : (a : Rat) / b / 2 ^ (k : Int) = a / (b * 2 ^ k : Nat) := by
      push_cast
      rw [zpow_natCast, div_div]
    rw [hdiv, Int.toNat_natCast, Nat.pow_eq]
    exact isNearest_roundDiv a (by positivity)
  case isFalse he =>
    obtain ⟨k, hk⟩ := Int.eq_ofNat_of_zero_le (show 0 ≤ -e by omega)
    have hmul : (a : Rat) / b / 2 ^ e = (a * 2 ^ k : Nat) / b := by
      rw [show e = -(k : Int) by omega, zpow_neg, zpow_natCast, div_inv_eq_mul, div_mul_eq_mul_div]
      push_cast
      rfl
    rw [hmul, hk, Int.toNat_natCast, Nat.pow_eq]
    exact isNearest_roundDiv _ hb

/-! ## Numbers in binary -/

theorem two_pow_log2_le {n : Nat} (hn : 0 < n) : (2 : Rat) ^ (n.log2 : Int) ≤ n := by
  rw [zpow_natCast]
  exact_mod_cast Nat.log2_self_le hn.ne'

theorem lt_two_pow_log2 (n : Nat) : (n : Rat) < 2 ^ (n.log2 + 1 : Int) := by
  have h : (n : Rat) < (2 ^ (n.log2 + 1) : Nat) := by exact_mod_cast Nat.lt_log2_self
  exact_mod_cast h

theorem two_pow_add_natCast (e : Int) (k : Nat) : (2 : Rat) ^ (e + k) = (2 ^ k : Nat) * 2 ^ e := by
  rw [zpow_add₀ two_ne_zero, zpow_natCast, mul_comm]
  push_cast
  rfl

/-- A quotient against the leading powers of its two numbers. -/
theorem two_pow_log2_sub_bounds {a b : Nat} (ha : 0 < a) (hb : 0 < b) :
    (2 : Rat) ^ (a.log2 - b.log2 - 1 : Int) ≤ a / b ∧ (a : Rat) / b < 2 ^ (a.log2 - b.log2 + 1 : Int) := by
  have hb' : (0 : Rat) < b := by exact_mod_cast hb
  rw [le_div_iff₀ hb', div_lt_iff₀ hb']
  constructor
  · calc (2 : Rat) ^ (a.log2 - b.log2 - 1 : Int) * b
        ≤ 2 ^ (a.log2 - b.log2 - 1 : Int) * 2 ^ (b.log2 + 1 : Int) := by
          gcongr
          exact (lt_two_pow_log2 b).le
      _ = 2 ^ (a.log2 : Int) := by
          rw [← zpow_add₀ two_ne_zero]
          congr 1
          omega
      _ ≤ a := two_pow_log2_le ha
  · calc (a : Rat) < 2 ^ (a.log2 + 1 : Int) := lt_two_pow_log2 a
      _ = 2 ^ (a.log2 - b.log2 + 1 : Int) * 2 ^ (b.log2 : Int) := by
          rw [← zpow_add₀ two_ne_zero]
          congr 1
          omega
      _ ≤ 2 ^ (a.log2 - b.log2 + 1 : Int) * b := by
          gcongr
          exact two_pow_log2_le hb

/-- Whether a quotient has at most `k` digits before the point in units of a power of two. -/
theorem lt_units_iff (e : Int) (k a : Nat) {b : Nat} (hb : 0 < b) :
    (if 0 ≤ e then decide (a < b * Nat.pow 2 e.toNat * Nat.pow 2 k)
      else decide (a * Nat.pow 2 (-e).toNat < b * Nat.pow 2 k)) = true ↔ (a : Rat) / b < 2 ^ (e + k) := by
  have hb' : (0 : Rat) < b := by exact_mod_cast hb
  rw [zpow_add₀ two_ne_zero, zpow_natCast]
  split
  case isTrue he =>
    obtain ⟨j, rfl⟩ := Int.eq_ofNat_of_zero_le he
    rw [decide_eq_true_eq, zpow_natCast, div_lt_iff₀ hb', Int.toNat_natCast, mul_comm _ (b : Rat), ← mul_assoc]
    exact_mod_cast Iff.rfl
  case isFalse he =>
    obtain ⟨j, hj⟩ := Int.eq_ofNat_of_zero_le (show 0 ≤ -e by omega)
    rw [decide_eq_true_eq, show e = -(j : Int) by omega, zpow_neg, zpow_natCast, inv_mul_eq_div,
      div_lt_div_iff₀ hb' (by positivity), neg_neg, Int.toNat_natCast, mul_comm _ (b : Rat)]
    exact_mod_cast Iff.rfl

/-- A number of units. -/
theorem mul_units_eq (e : Int) (m : Rat) :
    (if 0 ≤ e then m * (Nat.pow 2 e.toNat : Int) else m / (Nat.pow 2 (-e).toNat : Int)) = m * 2 ^ e := by
  split
  case isTrue he =>
    obtain ⟨k, rfl⟩ := Int.eq_ofNat_of_zero_le he
    rw [Int.toNat_natCast, zpow_natCast, Nat.pow_eq]
    push_cast
    rfl
  case isFalse he =>
    obtain ⟨k, hk⟩ := Int.eq_ofNat_of_zero_le (show 0 ≤ -e by omega)
    rw [show e = -(k : Int) by omega, neg_neg, Int.toNat_natCast, zpow_neg, zpow_natCast, Nat.pow_eq, div_eq_mul_inv]
    push_cast
    rfl

/-- **The unit of a quotient:** in this unit it has as many digits before the point as it is to have. -/
theorem unitExponent_bounds {bits : Nat} (hbits : 0 < bits) {a b : Nat} (ha : 0 < a) (hb : 0 < b) :
    (2 : Rat) ^ (unitExponent bits a b + bits - 1) ≤ a / b ∧
      (a : Rat) / b < 2 ^ (unitExponent bits a b + bits) := by
  obtain ⟨k, rfl⟩ : ∃ k, bits = k + 1 := Nat.exists_eq_add_one.mpr hbits
  obtain ⟨hlow, hhigh⟩ := two_pow_log2_sub_bounds ha hb
  -- the first guess of the unit is off by one where the quotient is below the power of two it is compared with
  have hbelow := lt_units_iff (a.log2 - b.log2 - k) k a hb
  have hexponent : ((a.log2 : Int) - b.log2 - k) + k = a.log2 - b.log2 := by omega
  rw [hexponent] at hbelow
  unfold unitExponent
  rw [Nat.add_sub_cancel, Nat.cast_succ, add_sub_cancel_right]
  dsimp only
  by_cases h : (a : Rat) / b < 2 ^ (a.log2 - b.log2 : Int)
  · rw [if_pos (hbelow.mpr h)]
    refine ⟨le_of_eq_of_le ?_ hlow, lt_of_lt_of_eq h ?_⟩ <;> congr 1 <;> omega
  · rw [if_neg (mt hbelow.mp h)]
    refine ⟨le_of_eq_of_le ?_ (not_lt.mp h), lt_of_lt_of_eq hhigh ?_⟩ <;> congr 1 <;> omega

/-! ## Rounding to so many digits -/

/-- The number `n * 2 ^ e` is what `q` is rounded to: `q` has so many digits before the point in units of `2 ^ e`, and
`n` is nearest to it in these units. -/
structure Rounds (bits : Nat) (q : Rat) (n : Nat) (e : Int) : Prop where
  low : (2 : Rat) ^ (e + bits - 1) ≤ q
  high : q < 2 ^ (e + bits)
  nearest : IsNearest n (q / 2 ^ e)

variable {bits : Nat}

theorem roundRat_zero : roundRat bits 0 = 0 := by
  simp [roundRat]

theorem roundRat_neg (q : Rat) : roundRat bits (-q) = -roundRat bits q := by
  unfold roundRat
  rw [Rat.neg_num, Rat.neg_den, Int.natAbs_neg]
  dsimp only
  by_cases hzero : q.num.natAbs = 0
  · rw [if_pos hzero, if_pos hzero, neg_zero]
  · rw [if_neg hzero, if_neg hzero]
    by_cases hneg : q.num < 0
    · rw [if_neg (by omega), if_pos hneg, neg_neg]
    · rw [if_pos (by omega), if_neg hneg]

/-- **Rounding a number above 0.** -/
theorem exists_rounds (hbits : 0 < bits) {q : Rat} (hq : 0 < q) :
    ∃ n e, Rounds bits q n e ∧ roundRat bits q = n * 2 ^ e := by
  obtain ⟨a, ha⟩ := Int.eq_ofNat_of_zero_le (Rat.num_pos.mpr hq).le
  have hpos : 0 < a := by
    have h := Rat.num_pos.mpr hq
    omega
  have hvalue : (a : Rat) / q.den = q := by
    have h := Rat.num_div_den q
    rwa [ha] at h
  have hbounds := unitExponent_bounds hbits hpos q.den_pos
  have hnearest := isNearest_roundDivAt (unitExponent bits a q.den) a q.den_pos
  rw [hvalue] at hbounds hnearest
  refine ⟨_, _, ⟨hbounds.1, hbounds.2, hnearest⟩, ?_⟩
  unfold roundRat
  rw [ha, Int.natAbs_natCast]
  dsimp only
  rw [if_neg hpos.ne', if_neg (by omega), mul_units_eq, Int.cast_natCast]

namespace Rounds

variable {q : Rat} {n : Nat} {e : Int}

/-- Rounding does not cross the powers of two around a number. -/
theorem two_pow_le (h : Rounds bits q n e) (hbits : 0 < bits) : (2 : Rat) ^ (e + bits - 1) ≤ n * 2 ^ e := by
  obtain ⟨k, rfl⟩ : ∃ k, bits = k + 1 := Nat.exists_eq_add_one.mpr hbits
  have hunit : (0 : Rat) < 2 ^ e := by positivity
  have hlow := h.low
  rw [Nat.cast_succ, ← add_assoc, add_sub_cancel_right, two_pow_add_natCast] at hlow ⊢
  have hle : 2 ^ k ≤ n := (isNearest_natCast _).le_of_le h.nearest ((le_div_iff₀ hunit).mpr hlow)
  gcongr

theorem le_two_pow (h : Rounds bits q n e) : (n : Rat) * 2 ^ e ≤ 2 ^ (e + bits) := by
  have hunit : (0 : Rat) < 2 ^ e := by positivity
  have hhigh := h.high.le
  rw [two_pow_add_natCast] at hhigh ⊢
  have hle : n ≤ 2 ^ bits := h.nearest.le_of_le (isNearest_natCast _) ((div_le_iff₀ hunit).mpr hhigh)
  gcongr

/-- The error is at most half a unit. -/
theorem abs_sub_le (h : Rounds bits q n e) : |(n : Rat) * 2 ^ e - q| ≤ q / 2 ^ bits := by
  have hunit : (0 : Rat) < 2 ^ e := by positivity
  calc |(n : Rat) * 2 ^ e - q| = |(n : Rat) - q / 2 ^ e| * 2 ^ e := by
        rw [← abs_of_pos hunit, ← abs_mul, abs_of_pos hunit, sub_mul, div_mul_cancel₀ q hunit.ne']
    _ ≤ 1 / 2 * 2 ^ e := by
        gcongr
        exact h.nearest.near
    _ = 2 ^ (e + bits - 1) / 2 ^ bits := by
        rw [zpow_sub_one₀ two_ne_zero, zpow_add₀ two_ne_zero, zpow_natCast]
        field_simp
    _ ≤ q / 2 ^ bits := by
        gcongr
        exact h.low

/-- In one unit the counts keep the order; in different ones there is a power of two in between. -/
theorem le_of_le {p : Rat} {m : Nat} {d : Int} (hp : Rounds bits p m d) (hq : Rounds bits q n e) (hbits : 0 < bits)
    (h : p ≤ q) : (m : Rat) * 2 ^ d ≤ n * 2 ^ e := by
  have hexp : d + bits - 1 < e + bits :=
    (zpow_lt_zpow_iff_right₀ one_lt_two).mp ((hp.low.trans h).trans_lt hq.high)
  rcases (show d = e ∨ d < e by omega) with rfl | hlt
  · have hle : m ≤ n := hp.nearest.le_of_le hq.nearest (by gcongr)
    gcongr
  · calc (m : Rat) * 2 ^ d ≤ 2 ^ (d + bits) := hp.le_two_pow
      _ ≤ 2 ^ (e + bits - 1) := zpow_le_zpow_right₀ one_le_two (by omega)
      _ ≤ n * 2 ^ e := hq.two_pow_le hbits

end Rounds

/-- **Rounding moves a number by a small part of it.** -/
theorem abs_roundRat_sub_le (hbits : 0 < bits) (q : Rat) : |roundRat bits q - q| ≤ |q| / 2 ^ bits := by
  have hpos : ∀ p : Rat, 0 < p → |roundRat bits p - p| ≤ |p| / 2 ^ bits := by
    intro p hp
    obtain ⟨n, e, h, hvalue⟩ := exists_rounds hbits hp
    rw [hvalue, abs_of_pos hp]
    exact h.abs_sub_le
  rcases lt_trichotomy q 0 with hneg | rfl | hq
  · have h := hpos (-q) (neg_pos.mpr hneg)
    rwa [roundRat_neg, abs_neg, neg_sub_neg, abs_sub_comm] at h
  · rw [roundRat_zero]
    simp
  · exact hpos q hq

theorem roundRat_nonneg (hbits : 0 < bits) {q : Rat} (hq : 0 ≤ q) : 0 ≤ roundRat bits q := by
  rcases hq.eq_or_lt with rfl | hq
  · rw [roundRat_zero]
  · obtain ⟨n, e, -, hvalue⟩ := exists_rounds hbits hq
    rw [hvalue]
    positivity

/-- **Rounding keeps the order.** -/
theorem roundRat_mono (hbits : 0 < bits) : Monotone (roundRat bits) := by
  refine monotone_of_odd_of_monotoneOn_nonneg roundRat_neg fun p hp q hq h => ?_
  rcases (Set.mem_Ici.mp hp).eq_or_lt with rfl | hp
  · rw [roundRat_zero]
    exact roundRat_nonneg hbits hq
  · obtain ⟨m, d, hm, hp'⟩ := exists_rounds hbits hp
    obtain ⟨n, e, hn, hq'⟩ := exists_rounds hbits (hp.trans_le h)
    rw [hp', hq']
    exact hm.le_of_le hn hbits h

end RouterTelemetry.Numeric
