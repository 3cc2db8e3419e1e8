import RelayMesh.Proofs.Decimal.Interval

/-!
The shortest decimal of a number reads as the number. A grid of seventeen digits is finer than the
interval around a number is wide, so the search has a hit; every hit lies in the interval, and
moving zeros into the exponent does not change the value.
-/

namespace RelayMesh

open Binary64

namespace Decimal

variable {tie : Tie} {i : Interval}

/-! ### One grid -/

theorem onGrid?_has {exponent : Int} {d : Decimal} (hit : onGrid? tie i exponent = some d) :
    i.Has (d.value * quartersInOne) := by
  rw [Interval.has_value_iff]
  unfold onGrid? at hit
  dsimp only at hit
  split at hit
  · rename_i both
    rw [Bool.and_eq_true] at both
    obtain rfl := Option.some.inj hit
    dsimp only
    split
    · exact both.1
    · split
      · exact both.2
      · cases tie with
        | up => exact both.2
        | toEven =>
          dsimp only
          split
          · exact both.1
          · exact both.2
  · split at hit
    · rename_i lower
      obtain rfl := Option.some.inj hit
      exact lower
    · split at hit
      · rename_i upper
        obtain rfl := Option.some.inj hit
        exact upper
      · exact absurd hit.symm (Option.some_ne_none d)

theorem Interval.le_low_of_not_holds {num den : Nat} (outside : ¬ i.holds num den = true)
    (below : num < i.high * den) : num ≤ i.low * den := by
  rw [holds] at outside
  split at outside <;>
    rw [Bool.and_eq_true, decide_eq_true_eq, decide_eq_true_eq] at outside <;> omega

theorem Interval.high_le_of_not_holds {num den : Nat} (outside : ¬ i.holds num den = true)
    (above : i.low * den < num) : i.high * den ≤ num := by
  rw [holds] at outside
  split at outside <;>
    rw [Bool.and_eq_true, decide_eq_true_eq, decide_eq_true_eq] at outside <;> omega

/-- A grid has a hit if its steps are shorter than the interval. Otherwise the value would lie
between two neighbours of which neither is inside. -/
theorem onGrid?_ne_none {exponent : Int} (within : i.low < i.value ∧ i.value < i.high)
    (fine : 10 ^ exponent.toNat * quartersInOne < (i.high - i.low) * 10 ^ (-exponent).toNat) :
    onGrid? tie i exponent ≠ none := by
  intro miss
  unfold onGrid? at miss
  dsimp only at miss
  split at miss
  · exact Option.some_ne_none _ miss
  split at miss
  · exact Option.some_ne_none _ miss
  split at miss
  · exact Option.some_ne_none _ miss
  rename_i lower upper
  have positive : 0 < 10 ^ exponent.toNat * quartersInOne :=
    Nat.mul_pos (Nat.pow_pos (by decide)) quartersInOne_pos
  have shrink_pos : 0 < 10 ^ (-exponent).toNat := Nat.pow_pos (by decide)
  simp only [Nat.pow_eq] at lower upper
  rw [Nat.mul_comm quartersInOne] at lower upper
  generalize 10 ^ (-exponent).toNat = shrink at *
  generalize 10 ^ exponent.toNat * quartersInOne = step at *
  have low := Nat.mul_lt_mul_of_pos_right within.1 shrink_pos
  have high := Nat.mul_lt_mul_of_pos_right within.2 shrink_pos
  have below := Nat.div_mul_le_self (i.value * shrink) step
  have above := Nat.lt_div_mul_add (a := i.value * shrink) positive
  have lower := Interval.le_low_of_not_holds lower (below.trans_lt high)
  have upper := Interval.high_le_of_not_holds upper (by rw [Nat.add_mul]; omega)
  rw [Nat.sub_mul] at fine
  rw [Nat.add_mul] at upper
  omega

/-! ### The search -/

theorem power_le_of_length {n k : Nat} (positive : 0 < n)
    (length : (Nat.toDigits 10 n).length = k + 1) : 10 ^ k ≤ n := by
  rcases Nat.eq_zero_or_pos k with rfl | more
  · exact positive
  · exact Nat.le_of_not_lt fun short => by
      have := (Nat.length_toDigits_le_iff (by decide) more).mpr short
      omega

/-- The leading power of ten, moved down by some digits, is at most the value with that many digits
more; `scale` stands for the exponent that makes all values whole. -/
theorem power_le_value_of_scale {quarters scale : Nat} {exponent : Int} (count : Nat)
    (scaled : 0 < quarters * Nat.pow 10 scale / quartersInOne)
    (leading : exponent =
      ((Nat.toDigits 10 (quarters * Nat.pow 10 scale / quartersInOne)).length : Int) -
        (scale + 1) - count) :
    10 ^ count * (10 ^ exponent.toNat * quartersInOne) ≤ quarters * 10 ^ (-exponent).toNat := by
  obtain ⟨k, length⟩ := Nat.exists_eq_succ_of_ne_zero
    (Nat.length_toDigits_pos (b := 10) (n := quarters * Nat.pow 10 scale / quartersInOne)).ne'
  have digits := (Nat.le_div_iff_mul_le quartersInOne_pos).mp (power_le_of_length scaled length)
  rw [length] at leading
  have powers :
      10 ^ count * 10 ^ exponent.toNat * 10 ^ scale = 10 ^ (-exponent).toNat * 10 ^ k := by
    rw [← Nat.pow_add, ← Nat.pow_add, ← Nat.pow_add]
    congr 1
    omega
  refine Nat.le_of_mul_le_mul_right ?_ (Nat.pow_pos (n := k) (show 0 < 10 by decide))
  rw [Nat.pow_eq] at digits
  generalize quartersInOne = one at *
  calc 10 ^ count * (10 ^ exponent.toNat * one) * 10 ^ k
      = 10 ^ count * 10 ^ exponent.toNat * (10 ^ k * one) := by ring
    _ ≤ 10 ^ count * 10 ^ exponent.toNat * (quarters * 10 ^ scale) := Nat.mul_le_mul_left _ digits
    _ = quarters * (10 ^ count * 10 ^ exponent.toNat * 10 ^ scale) := by ring
    _ = quarters * 10 ^ (-exponent).toNat * 10 ^ k := by rw [powers, Nat.mul_assoc]

/-- The leading power of ten, moved down by some digits, is at most the value with that many digits
more. -/
theorem power_le_value {quarters : Nat} (large : 4 ≤ quarters) (count : Nat) :
    10 ^ count * (10 ^ (leadingExponent quarters - count).toNat * quartersInOne) ≤
      quarters * 10 ^ (-(leadingExponent quarters - count)).toNat := by
  have scaled (power : Nat) (range : quartersInOne ≤ 4 * power) :
      0 < quarters * power / quartersInOne :=
    Nat.div_pos (range.trans (Nat.mul_le_mul_right _ large)) quartersInOne_pos
  exact power_le_value_of_scale count (scaled (Nat.pow 10 324) (by decide +kernel)) rfl

theorem search_has {leading : Int} {fuel length n : Nat} (after : length ≤ n)
    (before : n < length + fuel) (hit : onGrid? tie i (leading - n) ≠ none) :
    i.Has ((search tie i leading fuel length).value * quartersInOne) := by
  induction fuel generalizing length with
  | zero => exact absurd before (Nat.not_lt_of_le after)
  | succ fuel ih =>
    rw [search]
    split
    · rename_i d found
      exact onGrid?_has found
    · rename_i miss
      have later : length ≠ n := fun here => hit (here ▸ miss)
      exact ih (by omega) (by omega)

theorem value_trimZeros (fuel : Nat) (d : Decimal) : (trimZeros fuel d).value = d.value := by
  induction fuel generalizing d with
  | zero => rfl
  | succ fuel ih =>
    rw [trimZeros]
    split
    · rename_i zero_at_end
      have tens : 10 * (d.digits / 10) = d.digits := by omega
      rw [ih, value, value, zpow_add_one₀ (by norm_num), ← tens]
      push_cast
      rw [Nat.mul_div_cancel_left _ (by decide)]
      ring
    · rfl

/-! ### Around a number -/

section Number

variable {x : Binary64}

theorem around_value (x : Binary64) :
    (Interval.around x).value = 4 * x.significand * 2 ^ x.scale := rfl

theorem around_within (nonzero : x.isZero = false) :
    (Interval.around x).low < (Interval.around x).value ∧
      (Interval.around x).value < (Interval.around x).high := by
  have step := Nat.two_pow_pos x.scale
  have := significand_pos nonzero
  rw [Interval.around_low, Interval.around_high, around_value, Interval.lowerQuarters]
  constructor <;> refine Nat.mul_lt_mul_of_pos_right ?_ step
  · split <;> omega
  · omega

/-- The interval is wider than one part in `10 ^ 16` of the value, at the least numbers of a scale
too, where it is narrower but the value is least. -/
theorem value_lt_width (nonzero : x.isZero = false) :
    (Interval.around x).value <
      10 ^ 16 * ((Interval.around x).high - (Interval.around x).low) := by
  have bound := significand_lt x
  have positive := significand_pos nonzero
  rw [hiddenBit_eq] at bound
  rw [Interval.around_low, Interval.around_high, around_value, ← Nat.sub_mul, ← Nat.mul_assoc]
  refine Nat.mul_lt_mul_of_pos_right ?_ (Nat.two_pow_pos x.scale)
  rw [Interval.lowerQuarters]
  split
  · rename_i least
    rw [least.1, hiddenBit_eq]
    decide
  · omega

theorem has_shortest (tie : Tie) (nonzero : x.isZero = false) :
    (Interval.around x).Has ((shortest tie x).value * quartersInOne) := by
  have within := around_within nonzero
  have low := two_le_low nonzero
  have large : 4 ≤ (Interval.around x).value := by
    rw [around_value]
    have := significand_pos nonzero
    exact (show 4 ≤ 4 * x.significand by omega).trans
      (Nat.le_mul_of_pos_right _ (Nat.two_pow_pos _))
  rw [shortest, if_neg (by rw [nonzero]; decide), value_trimZeros]
  refine search_has (n := 16) (by decide) (by decide) (onGrid?_ne_none within ?_)
  have power := power_le_value large 16
  have shrink : 0 < 10 ^ (-(leadingExponent (Interval.around x).value - (16 : Nat))).toNat :=
    Nat.pow_pos (by decide)
  have width := Nat.mul_lt_mul_of_pos_right (value_lt_width nonzero) shrink
  rw [Nat.mul_assoc] at width
  exact Nat.lt_of_mul_lt_mul_left (power.trans_lt width)

theorem ofDecimal_of_value (tie : Tie) (finite : x.isFinite = true) {d : Decimal}
    (same : d.value = (shortest tie x).value) : ofDecimal x.isNegative d.digits d.exponent = x := by
  cases zero : x.isZero with
  | false =>
    have inside := has_shortest tie zero
    rw [← same] at inside
    exact ofDecimal_of_has finite zero inside
  | true =>
    have bits : x.magnitudeBits = 0 := beq_iff_eq.mp zero
    have none : d.digits = 0 := by
      rw [shortest, if_pos zero, value, value, Nat.cast_zero, zero_mul, mul_eq_zero] at same
      exact_mod_cast same.resolve_right (zpow_ne_zero _ (by norm_num))
    rw [ofDecimal, if_pos none, ← bits, ofMagnitude_magnitudeBits]

theorem shortest_canonical (tie : Tie) (x : Binary64) :
    (shortest tie x).digits ≠ 0 ∨ (shortest tie x).exponent = 0 := by
  cases zero : x.isZero with
  | false =>
    exact .inl (digits_ne_zero_of_holds zero (Interval.has_value_iff.mp (has_shortest tie zero)))
  | true =>
    rw [shortest, if_pos zero]
    exact .inr rfl

end Number

end Decimal

end RelayMesh
