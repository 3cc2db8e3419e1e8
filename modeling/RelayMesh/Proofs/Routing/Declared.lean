import RelayMesh.Proofs.Routing.Routes

namespace RelayMesh

section Loaded

variable {policy : DuplicateEdges} {doc : Document} {t : Topology}
  (loaded : Topology.load policy doc = .ok t)
include loaded

theorem Topology.declaredPairs_eq_filter :
    t.declaredPairs = t.allPairs.filter fun pair => t.isDeclared pair.1 pair.2 := by
  apply eq_of_pairwise_precedes t.pairwise_declaredPairs
  · exact (pairwise_pairsBelow t.numRelays).filter _
  intro pair
  rw [List.mem_filter, isDeclared_iff, allPairs, mem_pairsBelow]
  constructor
  · intro declared
    have inside := Routing.pair_of_load loaded declared
    rw [orderedPair_of_le (Nat.le_of_lt inside.1)]
    exact ⟨inside, declared⟩
  · rintro ⟨inside, declared⟩
    rw [orderedPair_of_le (Nat.le_of_lt inside.1)] at declared
    exact declared

theorem Topology.links_eq_filter (mode : MeshMode) : t.links mode =
    t.allPairs.filter fun pair => mode == .full || t.isDeclared pair.1 pair.2 := by
  cases mode with
  | full => exact (List.filter_eq_self.mpr fun _ _ => rfl).symm
  | declared => exact declaredPairs_eq_filter loaded

namespace Routing

open MeshGraph (hops?)

theorem adj_of_isDeclared {x y : NodeId} (declared : t.isDeclared x y = true) :
    (declaredGraph t).graph.Adj x y := by
  rw [MeshGraph.adj_iff (declaredGraph_proper loaded), MeshGraph.mem_neighbours]
  rw [Topology.isDeclared_iff] at declared
  rcases orderedPair_eq x y with same | same
  · exact .inl (same ▸ declared)
  · exact .inr (same ▸ declared)

theorem shortestPathRoute_of_isDeclared (p : AddressPlan) {x y : NodeId}
    (declared : t.isDeclared x y = true) :
    shortestPathRoute t p (declaredGraph t) (declaredGraph t).distances x y =
      routeOver p x y y := by
  have proper := declaredGraph_proper loaded
  have near := adj_of_isDeclared loaded declared
  obtain ⟨insideX, insideY⟩ := MeshGraph.lt_of_adj proper near
  have known : hops? (declaredGraph t).distances x y = some 1 := by
    rw [MeshGraph.hops?_eq_some_iff proper]
    exact ⟨insideX, insideY, SimpleGraph.edist_eq_one_iff_adj.mpr near⟩
  simp only [shortestPathRoute, known, nextHop?_of_adj proper near]

theorem synthesize_of_complete (p : AddressPlan)
    (complete : ∀ pair ∈ t.allPairs, t.isDeclared pair.1 pair.2 = true) :
    synthesize t p .declared = synthesize t p .full := by
  have routes : shortestPathRoutes t p = fullMeshRoutes t p := by
    apply Checked.mapM_congr
    rintro ⟨source, target⟩ journey
    obtain ⟨insideS, insideT, different⟩ := mem_relayJourneys.mp journey
    have listed := Topology.orderedPair_mem_allPairs insideS insideT different.symm
    have declared : t.isDeclared source target = true := by
      have pair := complete _ listed
      rw [Topology.isDeclared_iff, orderedPair_idem, ← Topology.isDeclared_iff] at pair
      exact pair
    exact shortestPathRoute_of_isDeclared loaded p declared
  simp only [synthesize, meshRoutes, routes]

end Routing

end Loaded

end RelayMesh
