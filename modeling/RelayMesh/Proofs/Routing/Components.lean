import Mathlib.Combinatorics.SimpleGraph.Connectivity.Connected
import Mathlib.Data.Nat.Count
import Mathlib.SetTheory.Cardinal.Finite
import RelayMesh.Proofs.Routing.Distance

namespace RelayMesh.MeshGraph

section Least

variable {V : Type} [LinearOrder V] {G : SimpleGraph V}

def IsFirst (G : SimpleGraph V) (x : V) : Prop :=
  ∀ y < x, ¬ G.Reachable x y

theorem eq_of_isFirst {x y : V} (firstX : IsFirst G x) (firstY : IsFirst G y)
    (joined : G.Reachable x y) : x = y := by
  rcases lt_trichotomy x y with before | same | after
  · exact absurd joined.symm (firstY x before)
  · exact same
  · exact absurd joined (firstX y after)

theorem exists_isFirst [WellFoundedLT V] (x : V) : ∃ y, IsFirst G y ∧ G.Reachable x y := by
  induction x using WellFoundedLT.induction with
  | ind x ih =>
    by_cases first : IsFirst G x
    · exact ⟨x, first, .refl x⟩
    · unfold IsFirst at first
      push Not at first
      obtain ⟨y, before, joined⟩ := first
      obtain ⟨z, firstZ, further⟩ := ih y before
      exact ⟨z, firstZ, joined.trans further⟩

theorem card_isFirst [WellFoundedLT V] (G : SimpleGraph V) :
    Nat.card {x // IsFirst G x} = Nat.card G.ConnectedComponent := by
  apply Nat.card_eq_of_bijective fun x => G.connectedComponentMk x.1
  constructor
  · intro x y same
    apply Subtype.ext
    exact eq_of_isFirst x.2 y.2 (SimpleGraph.ConnectedComponent.exact same)
  · intro component
    induction component using SimpleGraph.ConnectedComponent.ind with
    | h x =>
      obtain ⟨y, first, joined⟩ := exists_isFirst x
      exact ⟨⟨y, first⟩, SimpleGraph.ConnectedComponent.sound joined.symm⟩

end Least

theorem countP_range (p : Nat → Bool) (n : Nat) :
    (List.range n).countP p = Nat.card {x // x < n ∧ p x = true} := by
  rw [Nat.subtype_card ((Finset.range n).filter fun x => p x = true) (by simp),
    ← Nat.count_eq_card_filter_range]
  induction n with
  | zero => rfl
  | succ n ih => rw [List.range_succ, List.countP_append, ih, Nat.count_succ, List.countP_singleton]

def ownGraph (g : MeshGraph) : SimpleGraph (Fin g.size) :=
  g.graph.comap Fin.val

section Proper

variable {g : MeshGraph} (proper : g.Proper)
include proper

theorem reachable_ownGraph {x y : Fin g.size} :
    g.ownGraph.Reachable x y ↔ g.graph.Reachable x y := by
  constructor
  · intro joined
    exact joined.map (SimpleGraph.Embedding.comap Fin.valEmbedding g.graph).toHom
  · rintro ⟨w⟩
    have walked : ∀ {a b : Nat} (_ : g.graph.Walk a b) (insideA : a < g.size)
        (insideB : b < g.size), g.ownGraph.Reachable ⟨a, insideA⟩ ⟨b, insideB⟩ := by
      intro a b w
      induction w with
      | nil =>
        intro _ _
        exact .refl _
      | cons step _ ih =>
        intro insideA insideB
        have inside := (lt_of_adj proper step).2
        have near : g.ownGraph.Adj ⟨_, insideA⟩ ⟨_, inside⟩ := step
        exact near.reachable.trans (ih inside insideB)
    exact walked w x.2 y.2

theorem hops?_eq_none_iff {x y : Fin g.size} :
    hops? g.distances x y = none ↔ ¬ g.ownGraph.Reachable x y := by
  rw [reachable_ownGraph proper, Option.eq_none_iff_forall_ne_some]
  constructor
  · intro missing joined
    obtain ⟨w, length⟩ := joined.exists_walk_length_eq_edist
    exact missing w.length ((hops?_eq_some_iff proper).mpr ⟨x.2, y.2, length.symm⟩)
  · intro apart d known
    exact apart (dist_of_edist ((hops?_eq_some_iff proper).mp known).2.2).1

theorem all_isNone_iff {x : Nat} (inside : x < g.size) :
    ((List.range x).all fun y => (hops? g.distances x y).isNone) = true ↔
      IsFirst g.ownGraph ⟨x, inside⟩ := by
  simp only [List.all_eq_true, List.mem_range, Option.isNone_iff_eq_none]
  constructor
  · intro missing y before
    exact (hops?_eq_none_iff proper).mp (missing y before)
  · intro first y before
    exact (hops?_eq_none_iff (y := ⟨y, before.trans inside⟩) proper).mpr (first _ before)

theorem components_eq_card : g.components g.distances = Nat.card g.ownGraph.ConnectedComponent := by
  rw [components, countP_range, ← card_isFirst]
  apply Nat.card_congr
  exact {
    toFun x := ⟨⟨x.1, x.2.1⟩, (all_isNone_iff proper x.2.1).mp x.2.2⟩
    invFun x := ⟨x.1, x.1.2, (all_isNone_iff proper x.1.2).mpr x.2⟩
    left_inv _ := rfl
    right_inv _ := rfl }

end Proper

end RelayMesh.MeshGraph
