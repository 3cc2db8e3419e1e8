import Mathlib.Algebra.Order.Ring.Nat
import Mathlib.Data.Nat.Log
import Mathlib.Tactic.Linarith
import Mathlib.Tactic.Ring
import RelayMesh.Binary64

/-!
Rounding to binary64 numbers. A finite number is a significand below `2 ^ 53` at a scale, and its
magnitude bits are the scale in steps of the hidden bit plus the significand; a significand of all
of `2 ^ 53` is the carry into the next scale, where it has the same value. From this come the bound
on the error of one rounding, and the exact values that round to a given number.
-/

namespace RelayMesh

section NearestEven

variable {num den q : Nat}

theorem nearestEven_near (num : Nat) (positive : 0 < den) :
    2 * (nearestEven num den * den) ≤ 2 * num + den ∧
      2 * num ≤ 2 * (nearestEven num den * den) + den := by
  have split := Nat.div_add_mod num den
  have rest := Nat.mod_lt num positive
  rw [Nat.mul_comm] at split
  unfold nearestEven
  dsimp only
  split_ifs <;> (try rw [Nat.add_mul]) <;> omega

theorem nearestEven_eq (positive : 0 < den) (above : 2 * (q * den) ≤ 2 * num + den)
    (below : 2 * num ≤ 2 * (q * den) + den)
    (tie : q % 2 = 1 → 2 * (q * den) < 2 * num + den ∧ 2 * num < 2 * (q * den) + den) :
    nearestEven num den = q := by
  have split := Nat.div_add_mod num den
  have rest := Nat.mod_lt num positive
  have near : num / den = q ∨ num / den + 1 = q := by
    have upper : num / den < q + 1 :=
      Nat.div_lt_of_lt_mul (by rw [Nat.mul_comm, Nat.add_mul]; omega)
    rcases Nat.eq_zero_or_pos q with rfl | _
    · exact .inl (Nat.lt_one_iff.mp upper)
    · have lower : q - 1 ≤ num / den := by
        rw [Nat.le_div_iff_mul_le positive, Nat.sub_mul]
        omega
      omega
  rw [Nat.mul_comm] at split
  unfold nearestEven
  dsimp only
  rcases near with here | next
  · rw [here] at split ⊢
    split_ifs with small large even
    · rfl
    · omega
    · rfl
    · have := tie (by omega)
      omega
  · rw [← next, Nat.add_mul] at above below tie
    split_ifs with small large even
    · omega
    · exact next
    · have := tie (by omega)
      omega
    · exact next

theorem le_nearestEven (positive : 0 < den) (bound : q * den ≤ num) : q ≤ nearestEven num den := by
  have floor : q ≤ num / den := (Nat.le_div_iff_mul_le positive).mpr bound
  unfold nearestEven
  dsimp only
  split_ifs <;> omega

theorem nearestEven_le (positive : 0 < den) (bound : num ≤ q * den) : nearestEven num den ≤ q := by
  have near := (nearestEven_near num positive).1
  have : nearestEven num den * den < (q + 1) * den := by
    rw [Nat.add_mul]
    omega
  exact Nat.le_of_lt_succ (Nat.lt_of_mul_lt_mul_right this)

end NearestEven

namespace Binary64

theorem hiddenBit_eq : hiddenBit = 2 ^ 52 := rfl

theorem hiddenBit_pos : 0 < hiddenBit := by decide

theorem unitsInOne_pos : 0 < unitsInOne := by decide +kernel

/-! ### Numbers by their bits -/

section Bits

variable {magnitude : Nat}

theorem toNat_ofMagnitude (negative : Bool) (below : magnitude < signBit) :
    (ofMagnitude negative magnitude).bits.toNat =
      magnitude + if negative then signBit else 0 := by
  have word : signBit + signBit = UInt64.size := rfl
  refine UInt64.toNat_ofNat_of_lt' ?_
  split <;> omega

theorem magnitudeBits_ofMagnitude (negative : Bool) (below : magnitude < signBit) :
    (ofMagnitude negative magnitude).magnitudeBits = magnitude := by
  rw [magnitudeBits, toNat_ofMagnitude negative below]
  cases negative with
  | false => exact Nat.mod_eq_of_lt below
  | true => rw [if_pos rfl, Nat.add_mod_right, Nat.mod_eq_of_lt below]

theorem ofMagnitude_magnitudeBits (x : Binary64) :
    ofMagnitude x.isNegative x.magnitudeBits = x := by
  have word : x.bits.toNat < signBit + signBit := x.bits.toNat_lt
  have sum : x.magnitudeBits + (if x.isNegative then signBit else 0) = x.bits.toNat := by
    rw [magnitudeBits, isNegative]
    by_cases negative : signBit ≤ x.bits.toNat
    · rw [if_pos (decide_eq_true negative), Nat.mod_eq_sub_mod negative,
        Nat.mod_eq_of_lt (by omega)]
      omega
    · rw [if_neg (by rwa [decide_eq_true_eq]), Nat.mod_eq_of_lt (by omega)]
      rfl
  rw [ofMagnitude, sum, UInt64.ofNat_toNat]

theorem infinityBits_lt_signBit : infinityBits < signBit := by decide

theorem isFinite_iff {x : Binary64} : x.isFinite = true ↔ x.magnitudeBits < infinityBits :=
  decide_eq_true_iff

theorem isNaN_of_isFinite {x : Binary64} (finite : x.isFinite = true) : x.isNaN = false :=
  decide_eq_false (Nat.not_lt.mpr (isFinite_iff.mp finite).le)

theorem isInfinite_of_isFinite {x : Binary64} (finite : x.isFinite = true) :
    x.isInfinite = false :=
  beq_eq_false_iff_ne.mpr (isFinite_iff.mp finite).ne

theorem isFinite_of_number {x : Binary64} (number : x.isNaN = false)
    (bounded : x.isInfinite = false) : x.isFinite = true :=
  isFinite_iff.mpr
    (Nat.lt_of_le_of_ne (Nat.not_lt.mp (of_decide_eq_false number))
      (beq_eq_false_iff_ne.mp bounded))

theorem isFinite_infinity (negative : Bool) : (infinity negative).isFinite = false := by
  cases negative <;> rfl

end Bits

/-! ### Significand and scale -/

theorem significand_lt (x : Binary64) : x.significand < 2 * hiddenBit := by
  have := Nat.mod_lt x.magnitudeBits hiddenBit_pos
  rw [significand]
  split <;> omega

theorem hiddenBit_le_significand {x : Binary64} (scaled : 0 < x.scale) :
    hiddenBit ≤ x.significand := by
  rw [significand, if_neg]
  · exact Nat.le_add_right ..
  · intro small
    rw [scale, Nat.div_eq_of_lt small] at scaled
    exact absurd scaled (by decide)

theorem scale_mul_add_significand (x : Binary64) :
    x.scale * hiddenBit + x.significand = x.magnitudeBits := by
  have split := Nat.div_add_mod x.magnitudeBits hiddenBit
  rw [scale, significand]
  by_cases small : x.magnitudeBits < hiddenBit
  · rw [if_pos small, Nat.div_eq_of_lt small, Nat.zero_sub, Nat.zero_mul, Nat.zero_add]
  · have one : 1 ≤ x.magnitudeBits / hiddenBit :=
      (Nat.one_le_div_iff hiddenBit_pos).mpr (Nat.le_of_not_lt small)
    have step : hiddenBit ≤ hiddenBit * (x.magnitudeBits / hiddenBit) :=
      Nat.le_mul_of_pos_right _ one
    rw [if_neg small, Nat.sub_mul, Nat.mul_comm _ hiddenBit]
    omega

/-- The units of a number that is put together from a scale and a significand, which may be the
carry. -/
theorem units_ofMagnitude (negative : Bool) {shift q : Nat} (carry : q ≤ 2 * hiddenBit)
    (hidden : shift = 0 ∨ hiddenBit ≤ q) (below : shift * hiddenBit + q < signBit) :
    (ofMagnitude negative (shift * hiddenBit + q)).units = q * 2 ^ shift := by
  have bits := magnitudeBits_ofMagnitude negative below
  rw [units, significand, scale, bits]
  by_cases small : shift * hiddenBit + q < hiddenBit
  · have least : shift = 0 := by
      rcases hidden with least | _
      · exact least
      · omega
    subst least
    rw [if_pos small, Nat.div_eq_of_lt small, Nat.zero_mul, Nat.zero_add]
    rfl
  · have hidden : hiddenBit ≤ q := by
      rcases hidden with least | hidden
      · subst least
        omega
      · exact hidden
    rw [if_neg small]
    rcases Nat.eq_or_lt_of_le carry with rfl | carry
    · have sum : shift * hiddenBit + 2 * hiddenBit = hiddenBit * (shift + 2) := by ring
      rw [sum, Nat.mul_mod_right, Nat.mul_div_cancel_left _ hiddenBit_pos]
      change _ * 2 ^ (shift + 1) = _
      rw [Nat.pow_succ]
      ring
    · have sum : shift * hiddenBit + q = (q - hiddenBit) + hiddenBit * (shift + 1) := by
        rw [Nat.mul_add, Nat.mul_comm shift]
        omega
      have fraction : q - hiddenBit < hiddenBit := by omega
      rw [sum, Nat.add_mul_mod_self_left, Nat.add_mul_div_left _ _ hiddenBit_pos,
        Nat.mod_eq_of_lt fraction, Nat.div_eq_of_lt fraction, Nat.zero_add, Nat.add_sub_cancel,
        Nat.add_sub_cancel' hidden]
      rfl

/-! ### One rounding -/

def roundingShift (num den : Nat) : Nat :=
  (num / den).log2 - 52

def roundedSignificand (num den : Nat) : Nat :=
  nearestEven num (den * 2 ^ roundingShift num den)

section Rounding

variable {num den : Nat}

theorem ofUnits_eq (negative : Bool) (num den : Nat) :
    ofUnits negative num den =
      ofMagnitude negative
        (min (roundingShift num den * hiddenBit + roundedSignificand num den) infinityBits) :=
  rfl

theorem num_lt_roundingShift (positive : 0 < den) :
    num < 2 * hiddenBit * (den * 2 ^ roundingShift num den) := by
  have log : num / den < 2 ^ ((num / den).log2 + 1) := Nat.lt_log2_self
  have exponent : (num / den).log2 + 1 ≤ 53 + roundingShift num den := by
    rw [roundingShift]
    omega
  have bound : num / den < 2 ^ (53 + roundingShift num den) :=
    log.trans_le (Nat.pow_le_pow_right (by decide) exponent)
  calc num < 2 ^ (53 + roundingShift num den) * den := (Nat.div_lt_iff_lt_mul positive).mp bound
    _ = 2 * hiddenBit * (den * 2 ^ roundingShift num den) := by rw [Nat.pow_add, hiddenBit_eq]; ring

theorem hiddenBit_mul_le (shifted : 0 < roundingShift num den) :
    hiddenBit * (den * 2 ^ roundingShift num den) ≤ num := by
  rw [roundingShift] at shifted
  have nonzero : num / den ≠ 0 := by
    intro none
    rw [none] at shifted
    exact absurd shifted (by decide)
  have exponent : 52 + roundingShift num den = (num / den).log2 := by
    rw [roundingShift]
    omega
  calc hiddenBit * (den * 2 ^ roundingShift num den)
      = den * 2 ^ (52 + roundingShift num den) := by rw [Nat.pow_add, hiddenBit_eq]; ring
    _ ≤ den * (num / den) := by
      rw [exponent]
      exact Nat.mul_le_mul_left den (Nat.log2_self_le nonzero)
    _ ≤ num := Nat.mul_div_le num den

/-- The scale of the rounding is the one at which the exact value has 53 bits, or else the least. -/
theorem roundingShift_eq {shift : Nat} (positive : 0 < den)
    (upper : num < 2 * hiddenBit * (den * 2 ^ shift))
    (lower : shift = 0 ∨ hiddenBit * (den * 2 ^ shift) ≤ num) :
    roundingShift num den = shift := by
  have below : num / den < 2 ^ (53 + shift) := by
    rw [Nat.div_lt_iff_lt_mul positive, Nat.pow_add]
    calc num < 2 * hiddenBit * (den * 2 ^ shift) := upper
      _ = 2 ^ 53 * 2 ^ shift * den := by rw [hiddenBit_eq]; ring
  rw [roundingShift]
  rcases lower with rfl | lower
  · rcases Nat.eq_zero_or_pos (num / den) with none | nonzero
    · rw [none]
      rfl
    · have := (Nat.log2_lt nonzero.ne').mpr below
      omega
  · have above : 2 ^ (52 + shift) ≤ num / den := by
      rw [Nat.le_div_iff_mul_le positive, Nat.pow_add]
      calc 2 ^ 52 * 2 ^ shift * den = hiddenBit * (den * 2 ^ shift) := by rw [hiddenBit_eq]; ring
        _ ≤ num := lower
    have nonzero : num / den ≠ 0 := ((Nat.two_pow_pos _).trans_le above).ne'
    have := (Nat.log2_lt nonzero).mpr below
    have := (Nat.le_log2 nonzero).mpr above
    omega

theorem roundedSignificand_le (positive : 0 < den) :
    roundedSignificand num den ≤ 2 * hiddenBit :=
  nearestEven_le (Nat.mul_pos positive (Nat.two_pow_pos _)) (num_lt_roundingShift positive).le

theorem hiddenBit_le_roundedSignificand (positive : 0 < den) (shifted : 0 < roundingShift num den) :
    hiddenBit ≤ roundedSignificand num den :=
  le_nearestEven (Nat.mul_pos positive (Nat.two_pow_pos _)) (hiddenBit_mul_le shifted)

theorem magnitudeBits_ofUnits (negative : Bool) (num den : Nat) :
    (ofUnits negative num den).magnitudeBits =
      min (roundingShift num den * hiddenBit + roundedSignificand num den) infinityBits :=
  magnitudeBits_ofMagnitude negative ((Nat.min_le_right ..).trans_lt infinityBits_lt_signBit)

theorem isNaN_ofUnits (negative : Bool) (num den : Nat) :
    (ofUnits negative num den).isNaN = false := by
  rw [isNaN, magnitudeBits_ofUnits]
  exact decide_eq_false (Nat.not_lt.mpr (Nat.min_le_right ..))

theorem units_ofUnits {negative : Bool} (positive : 0 < den)
    (finite : (ofUnits negative num den).isFinite = true) :
    (ofUnits negative num den).units =
      roundedSignificand num den * 2 ^ roundingShift num den := by
  rw [isFinite_iff, magnitudeBits_ofUnits] at finite
  have below : roundingShift num den * hiddenBit + roundedSignificand num den < infinityBits := by
    omega
  rw [ofUnits_eq, Nat.min_eq_left below.le]
  refine units_ofMagnitude negative (roundedSignificand_le positive) ?_
    (below.trans infinityBits_lt_signBit)
  rcases Nat.eq_zero_or_pos (roundingShift num den) with least | shifted
  · exact .inl least
  · exact .inr (hiddenBit_le_roundedSignificand positive shifted)

theorem units_ofUnits_le {negative : Bool} (positive : 0 < den)
    (finite : (ofUnits negative num den).isFinite = true) :
    2 ^ 53 * ((ofUnits negative num den).units * den) ≤ (2 ^ 53 + 1) * num + 2 ^ 52 * den := by
  have near := (nearestEven_near num
    (Nat.mul_pos positive (Nat.two_pow_pos (roundingShift num den)))).1
  have step : hiddenBit * (den * 2 ^ roundingShift num den) ≤ num + 2 ^ 52 * den := by
    rcases Nat.eq_zero_or_pos (roundingShift num den) with least | shifted
    · rw [least, hiddenBit_eq]
      omega
    · exact (hiddenBit_mul_le shifted).trans (Nat.le_add_right ..)
  rw [units_ofUnits positive finite]
  calc 2 ^ 53 * (roundedSignificand num den * 2 ^ roundingShift num den * den)
      = 2 ^ 52 * (2 * (roundedSignificand num den * (den * 2 ^ roundingShift num den))) := by ring
    _ ≤ 2 ^ 52 * (2 * num + den * 2 ^ roundingShift num den) := Nat.mul_le_mul_left _ near
    _ = 2 ^ 53 * num + hiddenBit * (den * 2 ^ roundingShift num den) := by rw [hiddenBit_eq]; ring
    _ ≤ (2 ^ 53 + 1) * num + 2 ^ 52 * den := by omega

theorem ofUnits_of_rounded {x : Binary64} (finite : x.isFinite = true) {shift q : Nat}
    (bits : shift * hiddenBit + q = x.magnitudeBits) (scale : roundingShift num den = shift)
    (rounded : nearestEven num (den * 2 ^ shift) = q) : ofUnits x.isNegative num den = x := by
  rw [ofUnits_eq, roundedSignificand, scale, rounded, bits,
    Nat.min_eq_left (isFinite_iff.mp finite).le, ofMagnitude_magnitudeBits]

end Rounding

end Binary64

end RelayMesh
