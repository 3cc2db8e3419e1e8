import Mathlib.Algebra.Order.Ring.Nat
import Mathlib.Tactic.Ring
import RelayMesh.Topology

namespace RelayMesh

theorem mem_pairsBelow {n : Nat} {pair : Nat × Nat} :
    pair ∈ pairsBelow n ↔ pair.1 < pair.2 ∧ pair.2 < n := by
  obtain ⟨i, j⟩ := pair
  simp only [pairsBelow, List.mem_flatMap, List.mem_range, List.mem_map, List.mem_range'_1,
    Prod.mk.injEq]
  constructor
  · rintro ⟨k, below, l, ⟨above, bound⟩, rfl, rfl⟩
    omega
  · rintro ⟨order, below⟩
    exact ⟨i, by omega, j, ⟨by omega, by omega⟩, rfl, rfl⟩

def pairPlace (n i j : Nat) : Nat :=
  i * (2 * n - i - 1) / 2 + (j - i - 1)

theorem length_lowerPairs {n i : Nat} (inside : i ≤ n) :
    ((List.range i).flatMap fun k =>
      (List.range' (k + 1) (n - (k + 1))).map fun j => (k, j)).length =
        i * (2 * n - i - 1) / 2 := by
  have doubled : 2 * ((List.range i).map fun k => n - (k + 1)).sum = i * (2 * n - i - 1) := by
    induction i with
    | zero => simp
    | succ i ih =>
      obtain ⟨rest, rfl⟩ := Nat.exists_eq_add_of_le inside
      have before := ih (by omega)
      rw [List.range_succ, List.map_append, List.sum_append, Nat.mul_add, before]
      have short : 2 * (i + 1 + rest) - i - 1 = i + 1 + 2 * rest := by omega
      have shorter : 2 * (i + 1 + rest) - (i + 1) - 1 = i + 2 * rest := by omega
      simp only [List.map_cons, List.map_nil, List.sum_singleton, Nat.add_sub_cancel_left, short,
        shorter]
      ring
  simp only [List.length_flatMap, List.length_map, List.length_range', ← doubled]
  omega

theorem length_pairsBelow (n : Nat) : (pairsBelow n).length = n * (n - 1) / 2 := by
  rw [pairsBelow, length_lowerPairs le_rfl, show 2 * n - n - 1 = n - 1 by omega]

theorem getElem?_pairPlace {n i j : Nat} (order : i < j) (below : j < n) :
    (pairsBelow n)[pairPlace n i j]? = some (i, j) := by
  have split : List.range n = List.range i ++ i :: List.range' (i + 1) (n - (i + 1)) := by
    have parts : List.range' 0 i ++ List.range' (0 + i) (n - i) = List.range' 0 (i + (n - i)) :=
      List.range'_append_1
    rw [Nat.zero_add, Nat.add_sub_cancel' (by omega), show n - i = n - (i + 1) + 1 by omega,
      List.range'_succ] at parts
    rw [List.range_eq_range', List.range_eq_range', parts]
  have length := length_lowerPairs (show i ≤ n by omega)
  rw [pairsBelow, split, List.flatMap_append, pairPlace, ← length,
    List.getElem?_append_right (Nat.le_add_right _ _), Nat.add_sub_cancel_left, List.flatMap_cons,
    List.getElem?_append_left (by simp; omega), List.getElem?_map, List.getElem?_range' (by omega)]
  simp only [Option.map_some]
  congr 2
  omega

theorem orderedPair_comm (x y : NodeId) : orderedPair x y = orderedPair y x := by
  rcases Nat.lt_trichotomy x y with before | same | after
  · rw [orderedPair, orderedPair, if_pos (Nat.le_of_lt before), if_neg (Nat.not_le_of_lt before)]
  · rw [same]
  · rw [orderedPair, orderedPair, if_pos (Nat.le_of_lt after), if_neg (Nat.not_le_of_lt after)]

theorem orderedPair_of_le {x y : NodeId} (order : x ≤ y) : orderedPair x y = (x, y) :=
  if_pos order

theorem orderedPair_idem (x y : NodeId) :
    orderedPair (orderedPair x y).1 (orderedPair x y).2 = orderedPair x y := by
  rcases Nat.le_total x y with order | order
  · rw [orderedPair_of_le order, orderedPair_of_le order]
  · rw [orderedPair_comm x y, orderedPair_of_le order, orderedPair_of_le order]

theorem Edge.connects_iff {e : Edge} {x y : NodeId} :
    e.connects x y = true ↔ e.pair = orderedPair x y := by
  simp only [Edge.pair, orderedPair, Edge.connects, Bool.or_eq_true, Bool.and_eq_true, beq_iff_eq]
  grind

theorem orderedPair_eq (x y : NodeId) : orderedPair x y = (x, y) ∨ orderedPair x y = (y, x) := by
  rcases Nat.le_total x y with order | order
  · exact .inl (orderedPair_of_le order)
  · exact .inr (by rw [orderedPair_comm, orderedPair_of_le order])

def Precedes (p q : Nat × Nat) : Prop :=
  p.1 < q.1 ∨ p.1 = q.1 ∧ p.2 < q.2

theorem Precedes.asymm {p q : Nat × Nat} (before : Precedes p q) : ¬ Precedes q p := by
  unfold Precedes at *
  omega

theorem Precedes.ne {p q : Nat × Nat} (before : Precedes p q) : p ≠ q := by
  rintro rfl
  exact before.asymm before

theorem Precedes.of_pairLe {p q : Nat × Nat} (order : pairLe p q = true) (different : p ≠ q) :
    Precedes p q := by
  obtain ⟨a, b⟩ := p
  obtain ⟨c, d⟩ := q
  simp only [pairLe, Bool.or_eq_true, Bool.and_eq_true, decide_eq_true_eq, beq_iff_eq] at order
  simp only [ne_eq, Prod.mk.injEq, not_and] at different
  unfold Precedes
  grind

theorem eq_of_pairwise_precedes {xs ys : List (Nat × Nat)} (first : xs.Pairwise Precedes)
    (second : ys.Pairwise Precedes) (same : ∀ p, p ∈ xs ↔ p ∈ ys) : xs = ys := by
  have perm : xs.Perm ys :=
    (List.perm_ext_iff_of_nodup (first.imp Precedes.ne) (second.imp Precedes.ne)).mpr same
  exact perm.eq_of_pairwise (fun p q _ _ before after => absurd after before.asymm) first second

theorem mem_before_of_precedes {xs before after : List (Nat × Nat)} {p q : Nat × Nat}
    (ordered : xs.Pairwise Precedes) (split : xs = before ++ q :: after) (member : p ∈ xs)
    (ahead : Precedes p q) : p ∈ before := by
  subst split
  rcases List.mem_append.mp member with here | later
  · exact here
  · rcases List.mem_cons.mp later with rfl | later
    · exact absurd ahead ahead.asymm
    · have behind := (List.pairwise_cons.mp (List.pairwise_append.mp ordered).2.1).1 p later
      exact absurd ahead behind.asymm

theorem pairwise_precedes_groups {keys : List Nat} {group : Nat → List Nat}
    (ascending : keys.Pairwise (· < ·)) (each : ∀ k ∈ keys, (group k).Pairwise (· < ·)) :
    (keys.flatMap fun k => (group k).map fun j => (k, j)).Pairwise Precedes := by
  rw [List.pairwise_flatMap]
  constructor
  · intro k member
    rw [List.pairwise_map]
    exact (each k member).imp fun before => .inr ⟨rfl, before⟩
  · apply ascending.imp
    intro k l before p first q second
    obtain ⟨_, _, rfl⟩ := List.mem_map.mp first
    obtain ⟨_, _, rfl⟩ := List.mem_map.mp second
    exact .inl before

theorem pairwise_pairsBelow (n : Nat) : (pairsBelow n).Pairwise Precedes := by
  apply pairwise_precedes_groups
  · exact List.pairwise_lt_range
  · intro i _
    exact List.pairwise_lt_range'

theorem nodup_eraseDups {α : Type} [BEq α] [LawfulBEq α] (xs : List α) : xs.eraseDups.Nodup := by
  induction h : xs.length using Nat.strong_induction_on generalizing xs with
  | _ n ih =>
    cases xs with
    | nil => simp
    | cons x rest =>
      rw [List.eraseDups_cons, List.nodup_cons]
      constructor
      · simp [List.mem_eraseDups]
      · have shorter : (rest.filter fun y => !y == x).length < n := by
          rw [← h]
          exact Nat.lt_succ_of_le (List.length_filter_le _ rest)
        exact ih _ shorter _ rfl

theorem pairLe_trans {p q r : NodeId × NodeId} (first : pairLe p q = true)
    (second : pairLe q r = true) : pairLe p r = true := by
  simp only [pairLe, Bool.or_eq_true, Bool.and_eq_true, decide_eq_true_eq, beq_iff_eq] at *
  grind

theorem pairLe_total (p q : NodeId × NodeId) : (pairLe p q || pairLe q p) = true := by
  simp only [pairLe, Bool.or_eq_true, Bool.and_eq_true, decide_eq_true_eq, beq_iff_eq]
  grind

theorem pairLe_antisymm {p q : NodeId × NodeId} (before : pairLe p q = true)
    (after : pairLe q p = true) : p = q := by
  by_contra different
  exact (Precedes.of_pairLe before different).asymm (Precedes.of_pairLe after (Ne.symm different))

theorem pairwise_mergeSort_pairs {pairs : List (NodeId × NodeId)} (distinct : pairs.Nodup) :
    (pairs.mergeSort pairLe).Pairwise Precedes := by
  have sorted : (pairs.mergeSort pairLe).Pairwise fun p q => pairLe p q = true := by
    apply List.pairwise_mergeSort
    · intro p q r
      exact pairLe_trans
    · exact pairLe_total
  have unrepeated := (List.mergeSort_perm pairs pairLe).nodup_iff.mpr distinct
  exact (sorted.and unrepeated).imp fun both => Precedes.of_pairLe both.1 both.2

namespace Topology

def isDeclared (t : Topology) (x y : NodeId) : Bool :=
  t.edges.any fun e => e.connects x y

theorem mem_declaredPairs {t : Topology} {pair : NodeId × NodeId} :
    pair ∈ t.declaredPairs ↔ ∃ e ∈ t.edges, e.pair = pair := by
  simp only [declaredPairs, List.mem_mergeSort, List.mem_eraseDups, List.mem_map]

theorem isDeclared_iff {t : Topology} {x y : NodeId} :
    t.isDeclared x y = true ↔ orderedPair x y ∈ t.declaredPairs := by
  simp only [isDeclared, List.any_eq_true, mem_declaredPairs, Edge.connects_iff]

theorem isDeclared_comm (t : Topology) (x y : NodeId) : t.isDeclared x y = t.isDeclared y x := by
  rw [Bool.eq_iff_iff, isDeclared_iff, isDeclared_iff, orderedPair_comm]

theorem pairwise_declaredPairs (t : Topology) : t.declaredPairs.Pairwise Precedes :=
  pairwise_mergeSort_pairs (nodup_eraseDups _)

theorem orderedPair_mem_allPairs {t : Topology} {x y : NodeId} (insideX : x < t.numRelays)
    (insideY : y < t.numRelays) (different : x ≠ y) : orderedPair x y ∈ t.allPairs := by
  rw [Topology.allPairs, mem_pairsBelow]
  rcases Nat.lt_or_gt_of_ne different with before | before
  · rw [orderedPair_of_le (Nat.le_of_lt before)]
    exact ⟨before, insideY⟩
  · rw [orderedPair_comm, orderedPair_of_le (Nat.le_of_lt before)]
    exact ⟨before, insideX⟩

end Topology

end RelayMesh
