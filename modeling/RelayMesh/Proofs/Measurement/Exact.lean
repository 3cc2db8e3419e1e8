import Mathlib.Algebra.BigOperators.Ring.Finset
import Mathlib.Algebra.Order.BigOperators.Group.List
import Mathlib.Data.List.GetD
import Mathlib.Tactic.FieldSimp
import RelayMesh.Proofs.Measurement.Interpolation
import RelayMesh.Proofs.Measurement.Ranks

/-!
The statistics in exact arithmetic. On rational numbers no operation rounds, and the definitions say
what they are meant to say: percentiles lie on the lines between the ranks and grow with their place
and with every value, the median is the percentile in the middle, and the running mean is the mean.
-/

namespace RelayMesh.Measurement

open Arithmetic

instance : Arithmetic ℚ where
  ofNat n := n
  add x y := x + y
  sub x y := x - y
  mul x y := x * y
  div x y := x / y
  le x y := decide (x ≤ y)
  clampUnit p := min (max p 0) 1
  floor x := ⌊x⌋₊
  ceil x := ⌈x⌉₊

instance : LinearlySorted ℚ where
  trans _ _ _ first second :=
    decide_eq_true ((of_decide_eq_true first).trans (of_decide_eq_true second))
  total x y := by
    rw [Bool.or_eq_true]
    exact (le_total x y).imp decide_eq_true decide_eq_true
  antisymm _ _ before after := le_antisymm (of_decide_eq_true before) (of_decide_eq_true after)

variable {values more : List ℚ}

theorem ascending_sorted (values : List ℚ) : (sorted values).Pairwise (· ≤ ·) :=
  (pairwise_sorted values).imp of_decide_eq_true

/-! ### Ranks -/

def rankOf (values : List ℚ) (k : ℕ) : ℚ :=
  (sorted values).getD (min k (values.length - 1)) 0

theorem getElem?_sorted {k : ℕ} (inside : k < values.length) :
    (sorted values)[k]? = some (rankOf values k) := by
  have own : min k (values.length - 1) = k := by omega
  have listed : k < (sorted values).length := inside.trans_eq (length_sorted values).symm
  rw [rankOf, own, List.getD_eq_getElem _ _ listed, List.getElem?_eq_getElem listed]

theorem rankOf_eq_getElem {k : ℕ} (inside : k < (sorted values).length) :
    rankOf values k = (sorted values)[k] := by
  have found := getElem?_sorted (inside.trans_eq (length_sorted values))
  rw [List.getElem?_eq_getElem inside] at found
  exact (Option.some.inj found).symm

theorem rankOf_le_iff {k : ℕ} (inside : k < values.length) (bound : ℚ) :
    rankOf values k ≤ bound ↔ k < values.countP (· ≤ bound) := by
  have listed : k < (sorted values).length := inside.trans_eq (length_sorted values).symm
  rw [rankOf_eq_getElem listed, getElem_le_iff (ascending_sorted values) listed,
    (sorted_perm values).countP_eq]

theorem rankOf_eq_last (values : List ℚ) {k : ℕ} (beyond : values.length - 1 ≤ k) :
    rankOf values k = rankOf values (values.length - 1) := by
  rw [rankOf, rankOf, Nat.min_eq_right beyond, Nat.min_self]

theorem rankOf_mem (nonempty : values ≠ []) (k : ℕ) : rankOf values k ∈ values := by
  have last : min k (values.length - 1) < (sorted values).length := by
    have := List.length_pos_iff.mpr nonempty
    rw [length_sorted]
    omega
  rw [rankOf, List.getD_eq_getElem _ _ last]
  exact (sorted_perm values).subset (List.getElem_mem last)

theorem exists_rankOf {v : ℚ} (member : v ∈ values) : ∃ k < values.length, rankOf values k = v := by
  obtain ⟨k, listed, found⟩ := List.mem_iff_getElem.mp ((sorted_perm values).mem_iff.mpr member)
  exact ⟨k, listed.trans_eq (length_sorted values), (rankOf_eq_getElem listed).trans found⟩

theorem rankOf_mono (nonempty : values ≠ []) : Monotone (rankOf values) := by
  intro i j le
  have last : min j (values.length - 1) < (sorted values).length := by
    have := List.length_pos_iff.mpr nonempty
    rw [length_sorted]
    omega
  have before : min i (values.length - 1) ≤ min j (values.length - 1) := by omega
  rw [rankOf, rankOf, List.getD_eq_getElem _ _ (before.trans_lt last),
    List.getD_eq_getElem _ _ last]
  rcases before.eq_or_lt with same | before
  · simp only [same, le_refl]
  · exact List.pairwise_iff_getElem.mp (ascending_sorted values) _ _ _ _ before

theorem rankOf_le_rankOf (nonempty : values ≠ []) (raised : List.Forall₂ (· ≤ ·) values more)
    (k : ℕ) : rankOf values k ≤ rankOf more k := by
  have same := raised.length_eq
  have listed {k : ℕ} (inside : k < values.length) : rankOf values k ≤ rankOf more k := by
    have counted := (rankOf_le_iff (inside.trans_eq same) (rankOf more k)).mp (le_refl _)
    exact (rankOf_le_iff inside _).mpr (counted.trans_le (countP_le_of_raised raised _))
  rcases Nat.lt_or_ge k values.length with inside | beyond
  · exact listed inside
  · rw [rankOf_eq_last values (by omega), rankOf_eq_last more (by omega), ← same]
    exact listed (Nat.sub_lt (List.length_pos_iff.mpr nonempty) Nat.one_pos)

theorem isLeast_rankOf (nonempty : values ≠ []) : IsLeast {v | v ∈ values} (rankOf values 0) := by
  refine ⟨rankOf_mem nonempty 0, fun v member => ?_⟩
  obtain ⟨k, _, rfl⟩ := exists_rankOf member
  exact rankOf_mono nonempty (Nat.zero_le k)

theorem isGreatest_rankOf (nonempty : values ≠ []) :
    IsGreatest {v | v ∈ values} (rankOf values (values.length - 1)) := by
  refine ⟨rankOf_mem nonempty _, fun v member => ?_⟩
  obtain ⟨k, inside, rfl⟩ := exists_rankOf member
  exact rankOf_mono nonempty (Nat.le_sub_one_of_lt inside)

/-! ### Places -/

def place (count : ℕ) (p : ℚ) : ℚ :=
  (count - 1) * min (max p 0) 1

section

variable {count : ℕ} {p q : ℚ}

theorem place_eq (positive : 0 < count) (p : ℚ) :
    place count p = mul (ofNat (count - 1)) (clampUnit p) := by
  have last : ((count - 1 : ℕ) : ℚ) = count - 1 := by
    rw [Nat.cast_sub positive, Nat.cast_one]
  exact congrArg (· * min (max p 0) 1) last.symm

theorem place_nonneg (positive : 0 < count) (p : ℚ) : 0 ≤ place count p := by
  rw [place_eq positive]
  exact mul_nonneg (Nat.cast_nonneg _) (le_min (le_max_right p 0) zero_le_one)

theorem place_le (positive : 0 < count) (p : ℚ) : place count p ≤ (count - 1 : ℕ) := by
  rw [place_eq positive]
  exact mul_le_of_le_one_right (Nat.cast_nonneg _) (min_le_right ..)

theorem place_mono (positive : 0 < count) (le : p ≤ q) : place count p ≤ place count q := by
  rw [place_eq positive, place_eq positive]
  exact mul_le_mul_of_nonneg_left (min_le_min_right 1 (max_le_max_right 0 le)) (Nat.cast_nonneg _)

theorem place_of_nonpos (first : p ≤ 0) : place count p = (0 : ℕ) := by
  rw [place, max_eq_right first, min_eq_left zero_le_one, mul_zero, Nat.cast_zero]

theorem place_of_one_le (positive : 0 < count) (last : 1 ≤ p) :
    place count p = (count - 1 : ℕ) := by
  rw [place, max_eq_left (zero_le_one.trans last), min_eq_right last, mul_one,
    Nat.cast_sub positive, Nat.cast_one]

theorem ceil_place_lt (positive : 0 < count) (p : ℚ) : ⌈place count p⌉₊ < count :=
  (Nat.ceil_le.mpr (place_le positive p)).trans_lt (Nat.sub_lt positive Nat.one_pos)

theorem floor_place_lt (positive : 0 < count) (p : ℚ) : ⌊place count p⌋₊ < count :=
  (Nat.floor_le_ceil _).trans_lt (ceil_place_lt positive p)

end

theorem percentile?_eq (nonempty : values ≠ []) (p : ℚ) :
    percentile? values p = some (interpolate (rankOf values) (place values.length p)) := by
  have positive := List.length_pos_iff.mpr nonempty
  have below := getElem?_sorted (floor_place_lt positive p)
  have above := getElem?_sorted (ceil_place_lt positive p)
  rw [place_eq positive] at below above ⊢
  refine Option.bind_eq_some_iff.mpr ⟨_, below, Option.bind_eq_some_iff.mpr ⟨_, above, ?_⟩⟩
  rfl

theorem place_half (count : ℕ) : place count (1 / 2) = (count - 1) / 2 := by
  rw [place, max_eq_left (by norm_num), min_eq_left (by norm_num)]
  ring

theorem median?_eq_percentile? (nonempty : values ≠ []) :
    median? values = percentile? values (1 / 2) := by
  have positive := List.length_pos_iff.mpr nonempty
  rw [percentile?_eq nonempty, place_half, median?]
  obtain ⟨half, even | odd⟩ := Nat.even_or_odd' values.length
  · obtain ⟨k, rfl⟩ := Nat.exists_eq_add_of_lt (show 0 < half by omega)
    have below : (sorted values)[values.length / 2 - 1]? = some (rankOf values k) := by
      rw [getElem?_sorted (by omega)]
      congr
      omega
    have above : (sorted values)[values.length / 2]? = some (rankOf values (k + 1)) := by
      rw [getElem?_sorted (by omega)]
      congr
      omega
    have middle : ((values.length : ℚ) - 1) / 2 = k + 1 / 2 := by
      rw [even]
      push_cast
      ring
    rw [if_neg (by omega), middle, interpolate_half]
    exact Option.bind_eq_some_iff.mpr ⟨_, below, Option.bind_eq_some_iff.mpr ⟨_, above, rfl⟩⟩
  · have middle : ((values.length : ℚ) - 1) / 2 = (values.length / 2 : ℕ) := by
      rw [odd, show (2 * half + 1) / 2 = half by omega]
      push_cast
      ring
    rw [if_pos (by omega), getElem?_sorted (by omega), middle, interpolate_natCast]

/-! ### Means -/

theorem foldl_extendMean (values : List ℚ) (state : ℕ × ℚ) :
    (values.foldl extendMean state).1 = state.1 + values.length ∧
      (values.foldl extendMean state).2 * (values.foldl extendMean state).1 =
        state.2 * state.1 + values.sum := by
  induction values generalizing state with
  | nil => simp
  | cons v values ih =>
    obtain ⟨count, total⟩ := ih (extendMean state v)
    have step : (extendMean state v).2 * (extendMean state v).1 = state.2 * state.1 + v := by
      change (state.2 + (v - state.2) / ((state.1 + 1 : ℕ) : ℚ)) * ((state.1 + 1 : ℕ) : ℚ) = _
      push_cast
      field_simp
      ring
    rw [List.foldl_cons]
    refine ⟨?_, ?_⟩
    · rw [count, List.length_cons]
      exact Nat.add_right_comm ..
    · rw [total, step, List.sum_cons, add_assoc]

theorem mean_eq (nonempty : values ≠ []) : mean values = values.sum / values.length := by
  obtain ⟨count, total⟩ := foldl_extendMean values (0, ofNat 0)
  have divisor : (values.length : ℚ) ≠ 0 :=
    Nat.cast_ne_zero.mpr (List.length_pos_iff.mpr nonempty).ne'
  rw [Nat.zero_add] at count
  rw [count, Nat.cast_zero, mul_zero, zero_add] at total
  exact (eq_div_iff divisor).mpr total

/-! ### Statistics of values -/

structure ExactStatistics (values : List ℚ) : Prop where
  /-- The ranks that a percentile asks for exist, and it lies on the line between their values. -/
  interpolates : ∃ ranks : List ℚ, ranks.Perm values ∧ ranks.Pairwise (· ≤ ·) ∧
    ∀ p h : ℚ, h = (values.length - 1) * min (max p 0) 1 →
      ∃ below above, ranks[⌊h⌋₊]? = some below ∧ ranks[⌈h⌉₊]? = some above ∧
        percentile? values p = some (below + (h - ⌊h⌋₊) * (above - below))
  mono : ∀ p q, p ≤ q → ∀ x ∈ percentile? values p, ∀ y ∈ percentile? values q, x ≤ y
  raised : ∀ more, List.Forall₂ (· ≤ ·) values more →
    ∀ p, ∀ x ∈ percentile? values p, ∀ y ∈ percentile? more p, x ≤ y
  least : ∀ p ≤ 0, ∃ x ∈ percentile? values p, IsLeast {v | v ∈ values} x
  greatest : ∀ p, 1 ≤ p → ∃ x ∈ percentile? values p, IsGreatest {v | v ∈ values} x
  median : median? values = percentile? values (1 / 2)
  mean_between : ∀ low high, (∀ v ∈ values, low ≤ v ∧ v ≤ high) →
    low ≤ mean values ∧ mean values ≤ high
  mean : mean values = values.sum / values.length

theorem mean_between (nonempty : values ≠ []) {low high : ℚ}
    (between : ∀ v ∈ values, low ≤ v ∧ v ≤ high) : low ≤ mean values ∧ mean values ≤ high := by
  have positive : (0 : ℚ) < values.length := Nat.cast_pos.mpr (List.length_pos_iff.mpr nonempty)
  have lower := List.card_nsmul_le_sum values low fun v member => (between v member).1
  have upper := List.sum_le_card_nsmul values high fun v member => (between v member).2
  rw [nsmul_eq_mul, mul_comm] at lower upper
  rw [mean_eq nonempty]
  exact ⟨(le_div_iff₀ positive).mpr lower, (div_le_iff₀ positive).mpr upper⟩

theorem exactStatistics (nonempty : values ≠ []) : ExactStatistics values := by
  have positive := List.length_pos_iff.mpr nonempty
  constructor
  case interpolates =>
    refine ⟨sorted values, sorted_perm values, ascending_sorted values, ?_⟩
    rintro p h rfl
    exact ⟨_, _, getElem?_sorted (floor_place_lt positive p),
      getElem?_sorted (ceil_place_lt positive p), percentile?_eq nonempty p⟩
  case mono =>
    intro p q le x first y second
    rw [percentile?_eq nonempty] at first second
    cases first
    cases second
    exact interpolate_mono (rankOf_mono nonempty) (place_nonneg positive p) (place_mono positive le)
  case raised =>
    intro more raised p x first y second
    have more_nonempty : more ≠ [] := by
      rintro rfl
      exact nonempty (List.forall₂_nil_right_iff.mp raised)
    rw [percentile?_eq nonempty] at first
    rw [percentile?_eq more_nonempty, ← raised.length_eq] at second
    cases first
    cases second
    exact interpolate_le_interpolate (rankOf_le_rankOf nonempty raised) (place_nonneg positive p)
  case least =>
    intro p first
    refine ⟨rankOf values 0, ?_, isLeast_rankOf nonempty⟩
    rw [percentile?_eq nonempty, place_of_nonpos first, interpolate_natCast]
    rfl
  case greatest =>
    intro p last
    refine ⟨_, ?_, isGreatest_rankOf nonempty⟩
    rw [percentile?_eq nonempty, place_of_one_le positive last, interpolate_natCast]
    rfl
  case median => exact median?_eq_percentile? nonempty
  case mean_between =>
    intro low high between
    exact mean_between nonempty between
  case mean => exact mean_eq nonempty

/-! ### Summaries -/

/-- What a summary of some samples says in exact arithmetic, in seconds. -/
structure ExactSummary (samples : List ℕ) (s : Summary ℚ) : Prop where
  count : s.samples = samples.length
  mean : s.mean = (samples.sum : ℚ) / samples.length / 10 ^ 9
  median : percentile? (samples.map (Nat.cast : ℕ → ℚ)) (1 / 2) = some (s.median * 10 ^ 9)
  p99 : percentile? (samples.map (Nat.cast : ℕ → ℚ)) (99 / 100) = some (s.p99 * 10 ^ 9)
  ordered : ∃ least greatest : ℕ, IsLeast {n | n ∈ samples} least ∧
    IsGreatest {n | n ∈ samples} greatest ∧ least / 10 ^ 9 ≤ s.median ∧ s.median ≤ s.p99 ∧
    s.p99 ≤ greatest / 10 ^ 9 ∧ least / 10 ^ 9 ≤ s.mean ∧ s.mean ≤ greatest / 10 ^ 9
  adjusted : ∀ baseline, ∃ a ∈ (s.withBaseline (some baseline)).adjustedMean,
    a + baseline = (s.withBaseline (some baseline)).mean

theorem inSeconds_eq (x : ℚ) : inSeconds x = x / 10 ^ 9 := by
  change x / ((1000000000 : ℕ) : ℚ) = _
  norm_num

section

variable {samples : List ℕ}

theorem isLeast_of_map {low : ℚ} (least : IsLeast {v | v ∈ samples.map (Nat.cast : ℕ → ℚ)} low) :
    ∃ n : ℕ, n = low ∧ IsLeast {n | n ∈ samples} n := by
  obtain ⟨n, member, rfl⟩ := List.mem_map.mp least.1
  exact ⟨n, rfl, member, fun k other => Nat.cast_le.mp (least.2 (List.mem_map_of_mem other))⟩

theorem isGreatest_of_map {high : ℚ}
    (greatest : IsGreatest {v | v ∈ samples.map (Nat.cast : ℕ → ℚ)} high) :
    ∃ n : ℕ, n = high ∧ IsGreatest {n | n ∈ samples} n := by
  obtain ⟨n, member, rfl⟩ := List.mem_map.mp greatest.1
  exact ⟨n, rfl, member, fun k other => Nat.cast_le.mp (greatest.2 (List.mem_map_of_mem other))⟩

theorem exists_exactSummary (nonempty : samples ≠ []) :
    ∃ s : Summary ℚ, summarize? samples = some s ∧ ExactSummary samples s := by
  let values : List ℚ := samples.map Nat.cast
  have some_value : values ≠ [] := mt List.map_eq_nil_iff.mp nonempty
  have statistics := exactStatistics some_value
  obtain ⟨m, middle⟩ : ∃ m, percentile? values (1 / 2) = some m := ⟨_, percentile?_eq some_value _⟩
  obtain ⟨q, high⟩ : ∃ q, percentile? values (99 / 100) = some q :=
    ⟨_, percentile?_eq some_value _⟩
  obtain ⟨_, first, isLeast⟩ := statistics.least 0 (le_refl 0)
  obtain ⟨_, last, isGreatest⟩ := statistics.greatest 1 (le_refl 1)
  have low_median := statistics.mono 0 (1 / 2) (by norm_num) _ first _ middle
  have median_p99 := statistics.mono (1 / 2) (99 / 100) (by norm_num) _ middle _ high
  have p99_high := statistics.mono (99 / 100) 1 (by norm_num) _ high _ last
  have mean_within := statistics.mean_between _ _ fun v member =>
    ⟨isLeast.2 member, isGreatest.2 member⟩
  obtain ⟨least, rfl, least_sample⟩ := isLeast_of_map isLeast
  obtain ⟨greatest, rfl, greatest_sample⟩ := isGreatest_of_map isGreatest
  have seconds {x y : ℚ} (le : x ≤ y) : x / 10 ^ 9 ≤ y / 10 ^ 9 :=
    div_le_div_of_nonneg_right le (by norm_num)
  refine ⟨⟨samples.length, inSeconds (mean values), inSeconds m, inSeconds q⟩, ?_, ?_⟩
  · have factor : (div (ofNat 99) (ofNat 100) : ℚ) = 99 / 100 := rfl
    rw [← factor] at high
    exact Option.bind_eq_some_iff.mpr ⟨q, high, Option.bind_eq_some_iff.mpr
      ⟨m, statistics.median.trans middle, rfl⟩⟩
  · simp only [inSeconds_eq]
    constructor
    case count => rfl
    case mean => simp only [statistics.mean, values, List.length_map, Nat.cast_list_sum]
    case median => rw [div_mul_cancel₀ _ (by norm_num)]; exact middle
    case p99 => rw [div_mul_cancel₀ _ (by norm_num)]; exact high
    case ordered =>
      exact ⟨least, greatest, least_sample, greatest_sample, seconds low_median,
        seconds median_p99, seconds p99_high, seconds mean_within.1, seconds mean_within.2⟩
    case adjusted =>
      intro baseline
      exact ⟨_, rfl, sub_add_cancel _ _⟩

/-- The statistics of any values, and the summary of any samples, in exact arithmetic. -/
theorem statistics_exact :
    (∀ values : List ℚ, values ≠ [] → ExactStatistics values) ∧
      ∀ samples : List ℕ, samples ≠ [] →
        ∃ s : Summary ℚ, summarize? samples = some s ∧ ExactSummary samples s :=
  ⟨fun _ => exactStatistics, fun _ => exists_exactSummary⟩

theorem statistics_of_four :
    [(3 : ℚ) / 2, -1, 3 / 2, 0] ≠ [] ∧ ExactStatistics [3 / 2, -1, 3 / 2, 0] ∧
      [4, 1, 3, 1] ≠ [] ∧
        ∃ s : Summary ℚ, summarize? [4, 1, 3, 1] = some s ∧ ExactSummary [4, 1, 3, 1] s := by
  have values : [(3 : ℚ) / 2, -1, 3 / 2, 0] ≠ [] := List.cons_ne_nil _ _
  have samples : [4, 1, 3, 1] ≠ [] := List.cons_ne_nil _ _
  exact ⟨values, statistics_exact.1 _ values, samples, statistics_exact.2 _ samples⟩

end

end RelayMesh.Measurement
