import Mathlib.Algebra.Order.Floor.Semiring
import Mathlib.Data.List.Forall2
import Mathlib.Data.Rat.Floor
import Mathlib.Tactic.GCongr
import Mathlib.Tactic.Linarith
import Mathlib.Tactic.Positivity
import Mathlib.Tactic.Ring

/-!
Order statistics of rational values, and the lines between them. The value of a rank is decided by
counts alone: it is at most a bound exactly if more values than the rank are at most the bound. So
values that do not decrease have ranks that do not decrease, whatever the order in which they stand.
-/

namespace RelayMesh.Measurement

/-- The value at a place between two ranks, on the line between their values. -/
def interpolate (rank : ℕ → ℚ) (place : ℚ) : ℚ :=
  rank ⌊place⌋₊ + (place - ⌊place⌋₊) * (rank ⌈place⌉₊ - rank ⌊place⌋₊)

section Lines

variable {rank other : ℕ → ℚ} {place further : ℚ}

theorem interpolate_natCast (rank : ℕ → ℚ) (k : ℕ) : interpolate rank k = rank k := by
  simp [interpolate]

theorem interpolate_eq (rank : ℕ → ℚ) (place : ℚ) (positive : 0 ≤ place) :
    interpolate rank place =
      rank ⌊place⌋₊ + (place - ⌊place⌋₊) * (rank (⌊place⌋₊ + 1) - rank ⌊place⌋₊) := by
  rcases (Nat.floor_le positive).eq_or_lt with whole | between
  · rw [interpolate, sub_eq_zero.mpr whole.symm, zero_mul, zero_mul]
  · have next : ⌈place⌉₊ = ⌊place⌋₊ + 1 := by
      refine (Nat.ceil_eq_iff (Nat.succ_ne_zero _)).mpr ⟨between, ?_⟩
      exact_mod_cast (Nat.lt_floor_add_one place).le
    rw [interpolate, next]

theorem interpolate_half (rank : ℕ → ℚ) (k : ℕ) :
    interpolate rank (k + 1 / 2) = (rank k + rank (k + 1)) / 2 := by
  have positive : (0 : ℚ) ≤ k + 1 / 2 := by positivity
  have floor : ⌊(k + 1 / 2 : ℚ)⌋₊ = k := by
    refine (Nat.floor_eq_iff positive).mpr ⟨?_, ?_⟩ <;> linarith
  rw [interpolate_eq rank _ positive, floor]
  ring

theorem rank_floor_le_interpolate (ascending : Monotone rank) (positive : 0 ≤ place) :
    rank ⌊place⌋₊ ≤ interpolate rank place := by
  have behind : 0 ≤ place - ⌊place⌋₊ := sub_nonneg.mpr (Nat.floor_le positive)
  have step : 0 ≤ rank ⌈place⌉₊ - rank ⌊place⌋₊ :=
    sub_nonneg.mpr (ascending (Nat.floor_le_ceil place))
  exact le_add_of_nonneg_right (mul_nonneg behind step)

theorem interpolate_le_rank_succ (ascending : Monotone rank) (positive : 0 ≤ place) :
    interpolate rank place ≤ rank (⌊place⌋₊ + 1) := by
  have part : place - ⌊place⌋₊ ≤ 1 := by linarith [Nat.lt_floor_add_one place]
  have step : 0 ≤ rank (⌊place⌋₊ + 1) - rank ⌊place⌋₊ :=
    sub_nonneg.mpr (ascending (Nat.le_succ _))
  rw [interpolate_eq rank place positive]
  linarith [mul_le_of_le_one_left step part]

theorem interpolate_mono (ascending : Monotone rank) (positive : 0 ≤ place)
    (le : place ≤ further) : interpolate rank place ≤ interpolate rank further := by
  have later : 0 ≤ further := positive.trans le
  rcases (Nat.floor_mono le).eq_or_lt with same | below
  · have step : 0 ≤ rank (⌊further⌋₊ + 1) - rank ⌊further⌋₊ :=
      sub_nonneg.mpr (ascending (Nat.le_succ _))
    rw [interpolate_eq rank place positive, interpolate_eq rank further later, same]
    gcongr
  · calc interpolate rank place
        ≤ rank (⌊place⌋₊ + 1) := interpolate_le_rank_succ ascending positive
      _ ≤ rank ⌊further⌋₊ := ascending below
      _ ≤ interpolate rank further := rank_floor_le_interpolate ascending later

theorem interpolate_le_interpolate (raised : ∀ k, rank k ≤ other k) (positive : 0 ≤ place) :
    interpolate rank place ≤ interpolate other place := by
  have behind : 0 ≤ place - ⌊place⌋₊ := sub_nonneg.mpr (Nat.floor_le positive)
  have rest : 0 ≤ 1 - (place - ⌊place⌋₊) := by linarith [Nat.lt_floor_add_one place]
  have weights (r : ℕ → ℚ) : interpolate r place =
      (1 - (place - ⌊place⌋₊)) * r ⌊place⌋₊ + (place - ⌊place⌋₊) * r ⌈place⌉₊ := by
    rw [interpolate]
    ring
  rw [weights rank, weights other]
  have := raised ⌊place⌋₊
  have := raised ⌈place⌉₊
  gcongr

end Lines

section Counts

variable {ranks : List ℚ}

theorem getElem_le_iff (ascending : ranks.Pairwise (· ≤ ·)) {k : ℕ} (inside : k < ranks.length)
    (bound : ℚ) : ranks[k] ≤ bound ↔ k < ranks.countP (· ≤ bound) := by
  induction ranks generalizing k with
  | nil => contradiction
  | cons x ranks ih =>
    obtain ⟨least, rest⟩ := List.pairwise_cons.mp ascending
    by_cases small : x ≤ bound
    · rw [List.countP_cons_of_pos (by simpa using small)]
      cases k with
      | zero => simp [small]
      | succ k =>
        rw [List.getElem_cons_succ, ih rest (Nat.lt_of_succ_lt_succ inside), Nat.succ_lt_succ_iff]
    · -- All values are above the bound together with the first.
      have none_below : (x :: ranks).countP (· ≤ bound) = 0 := by
        refine List.countP_eq_zero.mpr fun y member below => small ?_
        rcases List.mem_cons.mp member with rfl | member
        · exact of_decide_eq_true below
        · exact (least y member).trans (of_decide_eq_true below)
      have above : ¬ (x :: ranks)[k] ≤ bound := by
        intro below
        exact List.countP_eq_zero.mp none_below _ (List.getElem_mem inside) (decide_eq_true below)
      rw [none_below]
      exact iff_of_false above (Nat.not_lt_zero k)

theorem countP_le_of_raised {values more : List ℚ} (raised : List.Forall₂ (· ≤ ·) values more)
    (bound : ℚ) : more.countP (· ≤ bound) ≤ values.countP (· ≤ bound) := by
  induction raised with
  | nil => exact Nat.le_refl _
  | @cons x y values more le _ ih =>
    by_cases small : y ≤ bound
    · rw [List.countP_cons_of_pos (by simpa using small),
        List.countP_cons_of_pos (by simpa using le.trans small)]
      exact Nat.succ_le_succ ih
    · rw [List.countP_cons_of_neg (by simpa using small), List.countP_cons]
      exact ih.trans (Nat.le_add_right ..)

end Counts

end RelayMesh.Measurement
