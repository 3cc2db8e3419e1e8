import Mathlib.Combinatorics.SimpleGraph.Metric
import RelayMesh.Routing.Hops

namespace RelayMesh.MeshGraph

section Walks

variable {V : Type} {G : SimpleGraph V} {x y z : V} {d : Nat}

theorem edist_eq_iff :
    G.edist x y = d ↔ (∃ w : G.Walk x y, w.length = d) ∧ ∀ w : G.Walk x y, d ≤ w.length := by
  constructor
  · intro distance
    refine ⟨SimpleGraph.exists_walk_of_edist_eq_coe distance, fun w => ?_⟩
    have bound := SimpleGraph.edist_le w
    rw [distance] at bound
    exact_mod_cast bound
  · rintro ⟨⟨w, rfl⟩, shortest⟩
    apply le_antisymm (SimpleGraph.edist_le w)
    obtain ⟨v, hv⟩ := w.reachable.exists_walk_length_eq_edist
    rw [← hv]
    exact_mod_cast shortest v

theorem closer_of_edist_succ (distance : G.edist x z = (d + 1 : Nat)) :
    ∃ y, G.Adj x y ∧ G.edist y z = d := by
  obtain ⟨⟨w, length⟩, shortest⟩ := edist_eq_iff.mp distance
  cases w with
  | nil => contradiction
  | @cons _ y _ step w =>
    refine ⟨y, step, edist_eq_iff.mpr ⟨⟨w, Nat.succ.inj length⟩, fun v => ?_⟩⟩
    exact Nat.le_of_succ_le_succ (shortest (.cons step v))

theorem edist_succ_of_closer (step : G.Adj x y) (closer : G.edist y z = d)
    (further : ∀ e ≤ d, G.edist x z ≠ e) : G.edist x z = (d + 1 : Nat) := by
  obtain ⟨⟨w, length⟩, _⟩ := edist_eq_iff.mp closer
  have bound := SimpleGraph.edist_le (SimpleGraph.Walk.cons step w)
  obtain ⟨e, he⟩ := ENat.ne_top_iff_exists.mp (ne_top_of_le_ne_top (ENat.natCast_ne_top _) bound)
  rw [← he, SimpleGraph.Walk.length_cons, length] at bound
  have le : e ≤ d + 1 := by exact_mod_cast bound
  have ne : ¬ e ≤ d := fun below => further e below he.symm
  have eq : e = d + 1 := by omega
  rw [← he, eq]

theorem dist_of_edist (distance : G.edist x z = d) : G.Reachable x z ∧ G.dist x z = d := by
  refine ⟨SimpleGraph.reachable_of_edist_ne_top ?_, ?_⟩
  · rw [distance]
    exact ENat.natCast_ne_top d
  · rw [SimpleGraph.dist, distance, ENat.toNat_natCast]

theorem closer_iff (step : G.Adj x y) (distance : G.edist x z = (d + 1 : Nat)) :
    G.edist y z = d ↔ G.dist y z + 1 = G.dist x z := by
  obtain ⟨reachable, length⟩ := dist_of_edist distance
  constructor
  · intro closer
    rw [(dist_of_edist closer).2, length]
  · intro closer
    have back := (step.symm.reachable.trans reachable).coe_dist_eq_edist
    have eq : G.dist y z = d := by omega
    rw [← back, eq]

end Walks

def graph (g : MeshGraph) : SimpleGraph Nat :=
  SimpleGraph.fromRel fun x y => (x, y) ∈ g.pairs

def Proper (g : MeshGraph) : Prop :=
  ∀ pair ∈ g.pairs, pair.1 < g.size ∧ pair.2 < g.size ∧ pair.1 ≠ pair.2

theorem mem_neighbours {g : MeshGraph} {x y : Nat} :
    y ∈ g.neighbours x ↔ (x, y) ∈ g.pairs ∨ (y, x) ∈ g.pairs := by
  simp only [neighbours, List.mem_filterMap]
  constructor
  · rintro ⟨⟨a, b⟩, listed, found⟩
    split at found
    · rename_i left
      cases Option.some.inj found
      exact .inl (left ▸ listed)
    · split at found
      · rename_i right
        cases Option.some.inj found
        exact .inr (right ▸ listed)
      · contradiction
  · rintro (listed | listed)
    · exact ⟨(x, y), listed, if_pos rfl⟩
    · refine ⟨(y, x), listed, ?_⟩
      by_cases loop : y = x
      · rw [if_pos loop, loop]
      · rw [if_neg loop, if_pos rfl]

section Proper

variable {g : MeshGraph} (proper : g.Proper)
include proper

theorem adj_iff {x y : Nat} : g.graph.Adj x y ↔ y ∈ g.neighbours x := by
  rw [graph, SimpleGraph.fromRel_adj, mem_neighbours]
  constructor
  · exact And.right
  · intro listed
    refine ⟨?_, listed⟩
    rcases listed with listed | listed
    · exact (proper _ listed).2.2
    · exact (proper _ listed).2.2.symm

theorem lt_of_adj {x y : Nat} (step : g.graph.Adj x y) : x < g.size ∧ y < g.size := by
  rcases mem_neighbours.mp ((adj_iff proper).mp step) with listed | listed
  · exact ⟨(proper _ listed).1, (proper _ listed).2.1⟩
  · exact ⟨(proper _ listed).2.1, (proper _ listed).1⟩

theorem support_lt {x y : Nat} (w : g.graph.Walk x y) (inside : x < g.size) :
    ∀ v ∈ w.support, v < g.size := by
  induction w with
  | nil => simpa using inside
  | cons step w ih =>
    intro v member
    rcases List.mem_cons.mp member with rfl | member
    · exact inside
    · exact ih (lt_of_adj proper step).2 v member

theorem edist_lt_size {x y d : Nat} (inside : x < g.size) (distance : g.graph.edist x y = d) :
    d < g.size := by
  obtain ⟨⟨w, rfl⟩, shortest⟩ := edist_eq_iff.mp distance
  have path : w.IsPath := w.isPath_of_length_eq_dist (dist_of_edist distance).2.symm
  have subset : w.support ⊆ List.range g.size := fun v member =>
    List.mem_range.mpr (support_lt proper w inside v member)
  have bound := (List.subperm_of_subset path.support_nodup subset).length_le
  rw [SimpleGraph.Walk.length_support, List.length_range] at bound
  exact bound

end Proper

/-- The table holds the distances to a target up to a bound, and nothing else. -/
structure Filled (g : MeshGraph) (target bound : Nat) (table : HopTable) : Prop where
  size : table.size = g.size
  exact : ∀ x d, distance? table x = some d ↔
    x < g.size ∧ d ≤ bound ∧ g.graph.edist x target = d

theorem distance?_ofFn {n : Nat} (f : Fin n → Option Nat) (x d : Nat) :
    distance? (Array.ofFn f) x = some d ↔ ∃ inside : x < n, f ⟨x, inside⟩ = some d := by
  simp [distance?, Array.getElem?_ofFn, Option.join_eq_some_iff]

theorem filled_start (g : MeshGraph) (target : Nat) : g.Filled target 0 (g.start target) := by
  constructor
  · exact Array.size_ofFn
  · intro x d
    rw [start, distance?_ofFn]
    constructor
    · rintro ⟨inside, found⟩
      split at found
      · rename_i here
        cases Option.some.inj found
        exact ⟨inside, Nat.le_refl 0, SimpleGraph.edist_eq_zero_iff.mpr here⟩
      · contradiction
    · rintro ⟨inside, bound, distance⟩
      obtain rfl := Nat.le_zero.mp bound
      exact ⟨inside, if_pos (SimpleGraph.edist_eq_zero_iff.mp distance)⟩

theorem neighbourTable_getD {g : MeshGraph} {x : Nat} (inside : x < g.size) :
    g.neighbourTable[x]?.getD [] = g.neighbours x := by
  simp [neighbourTable, inside]

theorem getElem_eq_distance? {table : HopTable} {x : Nat} (inside : x < table.size) :
    table[x] = distance? table x := by
  simp [distance?, inside]

/-- What a round puts into the place of a node: its old entry, or the next distance if one of its
neighbours was reached in the round before. -/
theorem distance?_extend {g : MeshGraph} {table : HopTable} (size : table.size = g.size)
    {k x d : Nat} :
    distance? (extend g.neighbourTable table k) x = some d ↔
      distance? table x = some d ∨ (x < g.size ∧ distance? table x = none ∧ d = k + 1 ∧
        ∃ y ∈ g.neighbours x, distance? table y = some k) := by
  rw [extend, distance?_ofFn]
  constructor
  · rintro ⟨inside, found⟩
    rw [Fin.getElem_fin, getElem_eq_distance?] at found
    split at found
    · rename_i e known
      exact .inl (known.trans found)
    · rename_i missing
      split at found
      · rename_i reached
        rw [Fin.getElem?_fin, neighbourTable_getD (size ▸ inside), List.any_eq_true] at reached
        obtain ⟨y, member, hit⟩ := reached
        exact .inr ⟨size ▸ inside, missing, (Option.some.inj found).symm, y, member,
          beq_iff_eq.mp hit⟩
      · contradiction
  · rintro (known | ⟨inside, missing, rfl, y, member, hit⟩)
    · have inside : x < table.size := by
        by_contra outside
        simp [distance?, outside] at known
      refine ⟨inside, ?_⟩
      rw [Fin.getElem_fin, getElem_eq_distance?, known]
    · refine ⟨size ▸ inside, ?_⟩
      have reached : ((g.neighbourTable[(⟨x, size ▸ inside⟩ : Fin table.size)]?.getD []).any
          fun y => distance? table y == some k) = true := by
        rw [Fin.getElem?_fin, neighbourTable_getD inside, List.any_eq_true]
        exact ⟨y, member, beq_iff_eq.mpr hit⟩
      rw [Fin.getElem_fin, getElem_eq_distance?, missing, if_pos reached]

theorem filled_extend {g : MeshGraph} (proper : g.Proper) {target k : Nat} {table : HopTable}
    (filled : g.Filled target k table) :
    g.Filled target (k + 1) (extend g.neighbourTable table k) := by
  constructor
  · rw [extend, Array.size_ofFn, filled.size]
  · intro x d
    rw [distance?_extend filled.size, filled.exact]
    constructor
    -- A new entry has a neighbour at distance `k`, and is itself no closer: it would be known.
    · rintro (⟨inside, bound, distance⟩ | ⟨inside, missing, rfl, y, member, hit⟩)
      · exact ⟨inside, Nat.le_succ_of_le bound, distance⟩
      · refine ⟨inside, Nat.le_refl _, ?_⟩
        apply edist_succ_of_closer ((adj_iff proper).mpr member) ((filled.exact y k).mp hit).2.2
        intro e below distance
        have known := (filled.exact x e).mpr ⟨inside, below, distance⟩
        rw [missing] at known
        contradiction
    · rintro ⟨inside, bound, distance⟩
      rcases Nat.le_or_eq_of_le_succ bound with below | rfl
      · exact .inl ⟨inside, below, distance⟩
      · obtain ⟨y, step, closer⟩ := closer_of_edist_succ distance
        refine .inr ⟨inside, ?_, rfl, y, (adj_iff proper).mp step, ?_⟩
        · rw [Option.eq_none_iff_forall_ne_some]
          intro e known
          obtain ⟨_, below, other⟩ := (filled.exact x e).mp known
          have same : (e : ℕ∞) = (k + 1 : Nat) := other.symm.trans distance
          have eq : e = k + 1 := by exact_mod_cast same
          omega
        · exact (filled.exact y k).mpr ⟨(lt_of_adj proper step).2, Nat.le_refl k, closer⟩

theorem filled_rounds {g : MeshGraph} (proper : g.Proper) (target rounds : Nat) :
    g.Filled target rounds
      ((List.range rounds).foldl (extend g.neighbourTable) (g.start target)) := by
  induction rounds with
  | zero => exact filled_start g target
  | succ k ih =>
    rw [List.range_succ, List.foldl_append, List.foldl_cons, List.foldl_nil]
    exact filled_extend proper ih

theorem hops?_eq_some_iff {g : MeshGraph} (proper : g.Proper) {source target d : Nat} :
    hops? g.distances source target = some d ↔
      source < g.size ∧ target < g.size ∧ g.graph.edist source target = d := by
  have table : ∀ inside : target < g.size,
      hops? g.distances source target =
        distance? (g.distancesTo g.neighbourTable target) source := by
    intro inside
    simp [hops?, distances, inside]
  have rounds := filled_rounds proper target g.size
  constructor
  · intro found
    have inside : target < g.size := by
      by_contra outside
      simp [hops?, distances, outside] at found
    rw [table inside] at found
    obtain ⟨source, _, distance⟩ := (rounds.exact source d).mp found
    exact ⟨source, inside, distance⟩
  · rintro ⟨source, inside, distance⟩
    rw [table inside]
    have bound := Nat.le_of_lt (edist_lt_size proper source distance)
    exact (rounds.exact _ d).mpr ⟨source, bound, distance⟩

end RelayMesh.MeshGraph
