import RelayMesh.Measurement.Statistics
import RelayMesh.Proofs.Binary64.Rounding

namespace RelayMesh

namespace Binary64

/-! ### Ranks -/

theorem floorNat_le_ceilNat (x : Binary64) : x.floorNat ≤ x.ceilNat := by
  have one := unitsInOne_pos
  rw [floorNat, ceilNat]
  split
  · exact Nat.le_refl 0
  · exact Nat.div_le_div_right (by omega)

theorem ceilNat_le {x : Binary64} {k : Nat}
    (bound : x.isFinite = true → x.units ≤ k * unitsInOne) : x.ceilNat ≤ k := by
  have one := unitsInOne_pos
  rw [ceilNat]
  split
  · exact Nat.zero_le k
  · rename_i counted
    rw [Bool.or_eq_true, Bool.not_eq_true', not_or, Bool.not_eq_false] at counted
    have := bound counted.2
    refine Nat.le_of_lt_succ ((Nat.div_lt_iff_lt_mul one).mpr ?_)
    rw [Nat.succ_mul]
    omega

/-- A factor that is below one by more than two roundings can make up for. -/
structure Shrinks (c : Binary64) : Prop where
  finite : c.isFinite = true
  nonzero : c.isZero = false
  small : 1000 * c.units ≤ 991 * unitsInOne

theorem mul_of_isFinite {x y : Binary64} (left : x.isFinite = true) (right : y.isFinite = true) :
    mul x y = ofUnits (x.isNegative != y.isNegative) (x.units * y.units) unitsInOne := by
  simp only [mul, isNaN_of_isFinite left, isNaN_of_isFinite right, isInfinite_of_isFinite left,
    isInfinite_of_isFinite right, Bool.or_self, if_false, Bool.false_eq_true]

theorem isFinite_of_mul {x y : Binary64} (number : x.isNaN = false) (right : y.isFinite = true)
    (nonzero : y.isZero = false) (finite : (mul x y).isFinite = true) : x.isFinite = true := by
  refine isFinite_of_number number (Bool.not_eq_true _ ▸ fun infinite => ?_)
  have nonzero_left : x.isZero = false := by
    rw [isZero, beq_iff_eq.mp infinite]
    rfl
  simp only [mul, number, isNaN_of_isFinite right, infinite, nonzero, nonzero_left, Bool.or_self,
    Bool.true_or, if_true, if_false, Bool.false_eq_true, isFinite_infinity] at finite

/-- A shrinking factor keeps a count below itself, although the count and the product are
rounded. A count beyond all finite numbers makes the product infinite. -/
theorem units_ofNat_mul_le {c : Binary64} (shrinks : Shrinks c) (k : Nat)
    (finite : (mul (ofNat k) c).isFinite = true) : (mul (ofNat k) c).units ≤ k * unitsInOne := by
  have count : (ofNat k).isFinite = true :=
    isFinite_of_mul (isNaN_ofUnits ..) shrinks.finite shrinks.nonzero finite
  have counted := units_ofUnits_le Nat.one_pos count
  rw [mul_of_isFinite count shrinks.finite] at finite ⊢
  have product := units_ofUnits_le unitsInOne_pos finite
  change 2 ^ 53 * ((ofNat k).units * 1) ≤ _ at counted
  generalize (ofUnits _ _ _).units = result at product ⊢
  generalize (ofNat k).units = x at counted product
  -- A rounding adds at most one part in `2 ^ 53` and half a unit; the factor takes off far more.
  have product : 1000 * 2 ^ 53 * result ≤ 991 * (2 ^ 53 + 1) * x + 1000 * 2 ^ 52 := by
    have factor := Nat.mul_le_mul_left x shrinks.small
    refine Nat.le_of_mul_le_mul_right ?_ unitsInOne_pos
    linarith only [product, factor]
  rcases Nat.eq_zero_or_pos k with rfl | positive
  · omega
  · have large : 2 ^ 10 ≤ k * unitsInOne :=
      le_trans (by decide +kernel) (Nat.le_mul_of_pos_left unitsInOne positive)
    omega

end Binary64

namespace Measurement

open Arithmetic

section

variable {α : Type} [Arithmetic α] {values : List α}

theorem length_sorted (values : List α) : (sorted values).length = values.length :=
  List.length_mergeSort values

theorem exists_percentile {p : α}
    (below : floor (mul (ofNat (values.length - 1)) (clampUnit p)) < values.length)
    (above : ceil (mul (ofNat (values.length - 1)) (clampUnit p)) < values.length) :
    ∃ r, percentile? values p = some r := by
  have below : floor (mul (ofNat (values.length - 1)) (clampUnit p)) < (sorted values).length :=
    below.trans_eq (length_sorted values).symm
  have above : ceil (mul (ofNat (values.length - 1)) (clampUnit p)) < (sorted values).length :=
    above.trans_eq (length_sorted values).symm
  exact ⟨_, Option.bind_eq_some_iff.mpr ⟨_, List.getElem?_eq_getElem below,
    Option.bind_eq_some_iff.mpr ⟨_, List.getElem?_eq_getElem above, rfl⟩⟩⟩

theorem exists_median (nonempty : values ≠ []) : ∃ m, median? values = some m := by
  have middle : values.length / 2 < (sorted values).length := by
    have := List.length_pos_iff.mpr nonempty
    rw [length_sorted]
    omega
  have before : values.length / 2 - 1 < (sorted values).length := by omega
  unfold median?
  dsimp only
  split
  · exact ⟨_, List.getElem?_eq_getElem middle⟩
  · exact ⟨_, Option.bind_eq_some_iff.mpr ⟨_, List.getElem?_eq_getElem before,
      Option.bind_eq_some_iff.mpr ⟨_, List.getElem?_eq_getElem middle, rfl⟩⟩⟩

end

def percentile99 : Binary64 := div (ofNat 99) (ofNat 100)

theorem shrinks_percentile99 : (Binary64.clampUnit percentile99).Shrinks := by
  constructor <;> decide +kernel

theorem places_lt {count : Nat} (positive : 0 < count) :
    floor (mul (ofNat (count - 1)) (clampUnit percentile99)) < count ∧
      ceil (mul (ofNat (count - 1)) (clampUnit percentile99)) < count := by
  have above : ceil (mul (ofNat (count - 1)) (clampUnit percentile99)) ≤ count - 1 :=
    Binary64.ceilNat_le (Binary64.units_ofNat_mul_le shrinks_percentile99 (count - 1))
  have below : floor (mul (ofNat (count - 1)) (clampUnit percentile99)) ≤
      ceil (mul (ofNat (count - 1)) (clampUnit percentile99)) :=
    Binary64.floorNat_le_ceilNat _
  omega

theorem summarize_nil : (summarize? [] : Option (Summary Binary64)) = none := by
  simp [summarize?, percentile?, sorted]

theorem exists_summary {samples : List Nat} (nonempty : samples ≠ []) :
    ∃ s : Summary Binary64, summarize? samples = some s ∧ s.samples = samples.length := by
  let values : List Binary64 := samples.map ofNat
  have some_value : values ≠ [] := mt List.map_eq_nil_iff.mp nonempty
  have places := places_lt (List.length_pos_iff.mpr some_value)
  obtain ⟨p, percentile⟩ := exists_percentile places.1 places.2
  obtain ⟨m, median⟩ := exists_median some_value
  exact ⟨_, Option.bind_eq_some_iff.mpr ⟨p, percentile,
    Option.bind_eq_some_iff.mpr ⟨m, median, rfl⟩⟩, rfl⟩

end Measurement

end RelayMesh
