import Mathlib.Algebra.Order.Field.Rat
import Mathlib.Tactic.FieldSimp
import Mathlib.Tactic.NormNum
import Mathlib.Tactic.Positivity
import RelayMesh.Decimal.Shortest
import RelayMesh.Proofs.Binary64.Rounding

/-!
The interval around a number is sound: every decimal whose exact value lies in it reads as the
number. The least numbers of a scale have a lower neighbour at half the distance, and what lies
below them is rounded at the scale before.
-/

namespace RelayMesh

open Binary64

namespace Decimal

def value (d : Decimal) : ℚ :=
  d.digits * (10 : ℚ) ^ d.exponent

theorem quartersInOne_pos : 0 < quartersInOne := Nat.mul_pos (by decide) unitsInOne_pos

def Interval.Has (i : Interval) (quarters : ℚ) : Prop :=
  (i.low ≤ quarters ∧ quarters ≤ i.high) ∧
    (i.closed = false → i.low < quarters ∧ quarters < i.high)

namespace Interval

theorem holds_iff {i : Interval} {num den : Nat} (positive : 0 < den) :
    i.holds num den = true ↔ i.Has (num / den) := by
  have den_pos : (0 : ℚ) < den := Nat.cast_pos.mpr positive
  rw [holds, Has, le_div_iff₀ den_pos, div_le_iff₀ den_pos, lt_div_iff₀ den_pos,
    div_lt_iff₀ den_pos]
  norm_cast
  cases i.closed with
  | true => simp
  | false =>
    simp only [Bool.and_eq_true, decide_eq_true_eq, if_false, Bool.false_eq_true, forall_const]
    omega

def lowerQuarters (x : Binary64) : Nat :=
  4 * x.significand - if x.significand = hiddenBit ∧ 0 < x.scale then 1 else 2

theorem holds_le {i : Interval} {num den : Nat} (inside : i.holds num den = true) :
    i.low * den ≤ num ∧ num ≤ i.high * den := by
  rw [holds] at inside
  split at inside <;>
    rw [Bool.and_eq_true, decide_eq_true_eq, decide_eq_true_eq] at inside <;> omega

theorem has_value_iff {i : Interval} {d : Decimal} :
    i.Has (d.value * quartersInOne) ↔
      i.holds (d.digits * (10 ^ d.exponent.toNat * quartersInOne)) (10 ^ (-d.exponent).toNat) =
        true := by
  have power : (10 : ℚ) ^ d.exponent = 10 ^ d.exponent.toNat / 10 ^ (-d.exponent).toNat := by
    rw [← zpow_natCast, ← zpow_natCast, ← zpow_sub₀ (by norm_num)]
    congr 1
    omega
  rw [holds_iff (Nat.pow_pos (by decide)), Decimal.value, power]
  push_cast
  rw [mul_div_assoc', div_mul_eq_mul_div, mul_assoc]

theorem around_low (x : Binary64) : (around x).low = lowerQuarters x * 2 ^ x.scale := rfl

theorem around_high (x : Binary64) : (around x).high = (4 * x.significand + 2) * 2 ^ x.scale := rfl

theorem closed_eq_false {x : Binary64} : (around x).closed = false ↔ x.significand % 2 = 1 := by
  change decide (x.significand % 2 = 0) = false ↔ _
  rw [decide_eq_false_iff_not]
  omega

theorem holds_around {x : Binary64} {num den : Nat} (inside : (around x).holds num den = true) :
    (lowerQuarters x * (den * 2 ^ x.scale) ≤ num ∧
        num ≤ (4 * x.significand + 2) * (den * 2 ^ x.scale)) ∧
      (x.significand % 2 = 1 → lowerQuarters x * (den * 2 ^ x.scale) < num ∧
        num < (4 * x.significand + 2) * (den * 2 ^ x.scale)) := by
  rw [holds, around_low, around_high] at inside
  have step (c : Nat) : c * 2 ^ x.scale * den = c * (den * 2 ^ x.scale) := by ring
  simp only [step] at inside
  by_cases closed : (around x).closed = true
  · rw [if_pos closed, Bool.and_eq_true, decide_eq_true_eq, decide_eq_true_eq] at inside
    have even := mt closed_eq_false.mpr (by rw [closed]; decide)
    exact ⟨inside, fun odd => absurd odd even⟩
  · rw [if_neg closed, Bool.and_eq_true, decide_eq_true_eq, decide_eq_true_eq] at inside
    exact ⟨⟨inside.1.le, inside.2.le⟩, fun _ => inside⟩

end Interval

section Rounding

variable {x : Binary64} {num den : Nat}

theorem ofUnits_of_scale (finite : x.isFinite = true) (positive : 0 < den)
    (inside : (Interval.around x).holds (4 * num) den = true)
    (scale : x.scale = 0 ∨ hiddenBit * (den * 2 ^ x.scale) ≤ num) :
    ofUnits x.isNegative num den = x := by
  obtain ⟨⟨above, below⟩, strict⟩ := Interval.holds_around inside
  have step : 0 < den * 2 ^ x.scale := Nat.mul_pos positive (Nat.two_pow_pos _)
  have near : 4 * x.significand ≤ Interval.lowerQuarters x + 2 := by
    rw [Interval.lowerQuarters]
    split <;> omega
  have near := Nat.mul_le_mul_right (den * 2 ^ x.scale) near
  have fits : 4 * x.significand + 2 < 8 * hiddenBit := by
    have := significand_lt x
    omega
  have fits := Nat.mul_lt_mul_of_pos_right fits step
  refine ofUnits_of_rounded finite (scale_mul_add_significand x)
    (roundingShift_eq positive ?_ scale) (nearestEven_eq step ?_ ?_ fun odd => ?_)
  all_goals
    generalize den * 2 ^ x.scale = d at *
    simp only [Nat.add_mul, Nat.mul_assoc] at *
  · omega
  · omega
  · omega
  · have := strict odd
    omega

theorem ofUnits_of_carry (finite : x.isFinite = true) (positive : 0 < den)
    (inside : (Interval.around x).holds (4 * num) den = true) (scaled : 0 < x.scale)
    (below : num < hiddenBit * (den * 2 ^ x.scale)) : ofUnits x.isNegative num den = x := by
  obtain ⟨⟨above, _⟩, _⟩ := Interval.holds_around inside
  have hidden := hiddenBit_le_significand scaled
  have least : x.significand = hiddenBit := by
    by_contra greater
    have short : Interval.lowerQuarters x * (den * 2 ^ x.scale) <
        4 * hiddenBit * (den * 2 ^ x.scale) := by
      rw [Nat.mul_assoc]
      omega
    have short := Nat.lt_of_mul_lt_mul_right short
    rw [Interval.lowerQuarters, if_neg (fun least => greater least.1)] at short
    omega
  rw [Interval.lowerQuarters, if_pos ⟨least, scaled⟩, least] at above
  obtain ⟨shift, scale⟩ := Nat.exists_eq_succ_of_ne_zero scaled.ne'
  have bits : shift * hiddenBit + 2 * hiddenBit = x.magnitudeBits := by
    rw [← scale_mul_add_significand x, scale, least, Nat.succ_mul shift]
    omega
  have half : den * 2 ^ x.scale = 2 * (den * 2 ^ shift) := by
    rw [scale, Nat.pow_succ]
    ring
  rw [half] at above below
  have step : 0 < den * 2 ^ shift := Nat.mul_pos positive (Nat.two_pow_pos _)
  generalize den_eq : den * 2 ^ shift = d at *
  have product : 4 * hiddenBit * (2 * d) = 8 * (hiddenBit * d) := by ring
  rw [Nat.sub_mul, product, Nat.one_mul] at above
  have wide : d ≤ hiddenBit * d := Nat.le_mul_of_pos_left d hiddenBit_pos
  rw [Nat.mul_left_comm] at below
  refine ofUnits_of_rounded finite bits (roundingShift_eq positive ?_ (.inr ?_)) ?_
  · rw [den_eq, Nat.mul_assoc]
    omega
  · rw [den_eq]
    omega
  · rw [den_eq]
    refine nearestEven_eq step ?_ ?_ fun odd => absurd odd (by omega)
    all_goals
      rw [Nat.mul_assoc]
      omega

theorem ofUnits_of_holds (finite : x.isFinite = true) (positive : 0 < den)
    (inside : (Interval.around x).holds (4 * num) den = true) :
    ofUnits x.isNegative num den = x := by
  by_cases carry : 0 < x.scale ∧ num < hiddenBit * (den * 2 ^ x.scale)
  · exact ofUnits_of_carry finite positive inside carry.1 carry.2
  · exact ofUnits_of_scale finite positive inside (by omega)

end Rounding

/-! ### Reading -/

section Reading

variable {x : Binary64}

theorem significand_pos (nonzero : x.isZero = false) : 0 < x.significand := by
  have bits : x.magnitudeBits ≠ 0 := beq_eq_false_iff_ne.mp nonzero
  have := hiddenBit_pos
  rw [significand]
  split <;> omega

theorem two_le_low (nonzero : x.isZero = false) : 2 ≤ (Interval.around x).low := by
  have quarters : 2 ≤ Interval.lowerQuarters x := by
    have := significand_pos nonzero
    rw [Interval.lowerQuarters]
    split <;> omega
  exact quarters.trans (Nat.le_mul_of_pos_right _ (Nat.two_pow_pos _))

theorem scale_le (finite : x.isFinite = true) : x.scale ≤ 2045 := by
  have bits : x.magnitudeBits / hiddenBit < 2047 :=
    (Nat.div_lt_iff_lt_mul hiddenBit_pos).mpr (isFinite_iff.mp finite)
  rw [scale]
  omega

theorem high_lt (finite : x.isFinite = true) {k : Nat} (large : 311 ≤ k) :
    (Interval.around x).high < 10 ^ k * quartersInOne := by
  have quarters : 4 * x.significand + 2 ≤ 2 ^ 55 := by
    have := significand_lt x
    rw [hiddenBit_eq] at this
    omega
  -- The powers are variables here, lest they be evaluated before the last comparison.
  have bound (step top : Nat) (scale : 2 ^ x.scale ≤ step) (power : top ≤ 10 ^ k)
      (range : 2 ^ 55 * step < top * quartersInOne) :
      (Interval.around x).high < 10 ^ k * quartersInOne :=
    ((Nat.mul_le_mul quarters scale).trans_lt range).trans_le
      (Nat.mul_le_mul_right quartersInOne power)
  have scale (j : Nat) : x.scale ≤ j → 2 ^ x.scale ≤ Nat.pow 2 j :=
    Nat.pow_le_pow_right Nat.two_pos
  have power (j : Nat) : j ≤ k → Nat.pow 10 j ≤ 10 ^ k := Nat.pow_le_pow_right (by decide)
  exact bound _ _ (scale 2045 (scale_le finite)) (power 311 large) (by decide +kernel)

variable {digits : Nat} {exponent : Int}

theorem digits_ne_zero_of_holds (nonzero : x.isZero = false)
    (inside : (Interval.around x).holds (digits * (10 ^ exponent.toNat * quartersInOne))
      (10 ^ (-exponent).toNat) = true) : digits ≠ 0 := by
  rintro rfl
  have above := (Interval.holds_le inside).1
  have low := two_le_low nonzero
  have := Nat.mul_pos (show 0 < (Interval.around x).low by omega)
    (Nat.pow_pos (n := (-exponent).toNat) (show 0 < 10 by decide))
  omega

theorem exponent_le_of_holds (finite : x.isFinite = true) (some_digit : digits ≠ 0)
    (inside : (Interval.around x).holds (digits * (10 ^ exponent.toNat * quartersInOne))
      (10 ^ (-exponent).toNat) = true) : exponent ≤ 310 := by
  by_contra large
  have below := (Interval.holds_le inside).2
  rw [show (-exponent).toNat = 0 by omega, Nat.pow_zero, Nat.mul_one] at below
  have one_digit := Nat.le_mul_of_pos_left (10 ^ exponent.toNat * quartersInOne)
    (Nat.pos_of_ne_zero some_digit)
  have high := high_lt finite (show 311 ≤ exponent.toNat by omega)
  exact absurd (one_digit.trans below) (Nat.not_le_of_lt high)

theorem le_exponent_of_holds (nonzero : x.isZero = false)
    (inside : (Interval.around x).holds (digits * (10 ^ exponent.toNat * quartersInOne))
      (10 ^ (-exponent).toNat) = true) : -330 ≤ exponent + (digits.log2 + 1 : Nat) := by
  by_contra small
  have above := (Interval.holds_le inside).1
  have low_pos := two_le_low nonzero
  generalize (Interval.around x).low = low at above low_pos
  have top : 0 < 10 ^ (digits.log2 + 1) := Nat.pow_pos (by decide)
  have length : digits ≤ 10 ^ (digits.log2 + 1) :=
    Nat.lt_log2_self.le.trans (Nat.pow_le_pow_left (by decide) _)
  have bound (bottom : Nat)
      (power : 10 ^ (digits.log2 + 1) * bottom ≤ 10 ^ (-exponent).toNat) :
      2 * bottom ≤ quartersInOne := by
    generalize quartersInOne = one at above
    rw [show exponent.toNat = 0 by omega, pow_zero, one_mul] at above
    refine Nat.le_of_mul_le_mul_left ?_ top
    calc 10 ^ (digits.log2 + 1) * (2 * bottom)
        = 2 * (10 ^ (digits.log2 + 1) * bottom) := Nat.mul_left_comm ..
      _ ≤ low * 10 ^ (-exponent).toNat := Nat.mul_le_mul low_pos power
      _ ≤ digits * one := above
      _ ≤ 10 ^ (digits.log2 + 1) * one := Nat.mul_le_mul_right one length
  have power (j : Nat) (far : digits.log2 + 1 + j ≤ (-exponent).toNat) :
      10 ^ (digits.log2 + 1) * Nat.pow 10 j ≤ 10 ^ (-exponent).toNat := by
    rw [Nat.pow_eq, ← Nat.pow_add]
    exact Nat.pow_le_pow_right (by decide) far
  exact absurd (bound _ (power 331 (by omega))) (by decide +kernel)

/-- A decimal in the interval around a number reads as the number. In particular its exponent is not
one of those that are settled without any arithmetic. -/
theorem ofDecimal_of_has (finite : x.isFinite = true) (nonzero : x.isZero = false) {d : Decimal}
    (inside : (Interval.around x).Has (d.value * quartersInOne)) :
    ofDecimal x.isNegative d.digits d.exponent = x := by
  obtain ⟨digits, exponent⟩ := d
  rw [Interval.has_value_iff] at inside
  dsimp only at inside ⊢
  have some_digit := digits_ne_zero_of_holds nonzero inside
  have large := exponent_le_of_holds finite some_digit inside
  have small := le_exponent_of_holds nonzero inside
  rw [ofDecimal, if_neg some_digit, if_neg (by omega)]
  split
  · rename_i whole
    have quarters : digits * (10 ^ exponent.toNat * quartersInOne) =
        4 * (digits * Nat.pow 10 exponent.toNat * unitsInOne) := by
      rw [quartersInOne, Nat.pow_eq]
      ring
    rw [show (-exponent).toNat = 0 by omega, Nat.pow_zero, quarters] at inside
    exact ofUnits_of_holds finite Nat.one_pos inside
  · rename_i fraction
    have quarters : digits * (10 ^ exponent.toNat * quartersInOne) =
        4 * (digits * unitsInOne) := by
      rw [show exponent.toNat = 0 by omega, quartersInOne]
      ring
    rw [quarters] at inside
    rw [if_neg (by omega)]
    exact ofUnits_of_holds finite (Nat.pow_pos (by decide)) inside

end Reading

end Decimal

end RelayMesh
