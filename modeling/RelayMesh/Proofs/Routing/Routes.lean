import Mathlib.Order.Bounds.Defs
import RelayMesh.Proofs.Addressing.Ownership
import RelayMesh.Proofs.Routing.Distance
import RelayMesh.Routing.Routes

namespace RelayMesh

def Topology.declaredMesh (t : Topology) : SimpleGraph NodeId :=
  SimpleGraph.fromRel fun x y => ∃ e ∈ t.edges, e.connects x y

namespace Routing

open Checked (bind_ok pure_ok)
open MeshGraph (hops?)

variable {t : Topology} {p : AddressPlan}

theorem pair_eq_iff {e : Edge} {x y : NodeId} :
    e.pair = (x, y) ∨ e.pair = (y, x) ↔ e.connects x y := by
  simp only [Edge.pair, orderedPair, Edge.connects, Bool.or_eq_true, Bool.and_eq_true, beq_iff_eq]
  split <;> grind

theorem graph_declaredGraph (t : Topology) : (declaredGraph t).graph = t.declaredMesh := by
  ext x y
  simp only [MeshGraph.graph, Topology.declaredMesh, SimpleGraph.fromRel_adj, declaredGraph,
    Topology.mem_declaredPairs, ← pair_eq_iff]
  grind

theorem pair_of_load {policy : DuplicateEdges} {doc : Document}
    (loaded : Topology.load policy doc = .ok t) {pair : NodeId × NodeId}
    (declared : pair ∈ t.declaredPairs) : pair.1 < pair.2 ∧ pair.2 < t.numRelays := by
  obtain ⟨e, member, rfl⟩ := Topology.mem_declaredPairs.mp declared
  obtain ⟨boundA, boundB, different⟩ := Topology.edges_of_load loaded member
  rw [Edge.pair]
  rcases Nat.lt_or_gt_of_ne different with before | before
  · rw [orderedPair_of_le (Nat.le_of_lt before)]
    exact ⟨before, boundB⟩
  · rw [orderedPair_comm, orderedPair_of_le (Nat.le_of_lt before)]
    exact ⟨before, boundA⟩

theorem links_of_load {policy : DuplicateEdges} {doc : Document}
    (loaded : Topology.load policy doc = .ok t) {mode : MeshMode} {pair : NodeId × NodeId}
    (linked : pair ∈ t.links mode) : pair.1 < pair.2 ∧ pair.2 < t.numRelays := by
  cases mode with
  | full => exact mem_pairsBelow.mp linked
  | declared => exact pair_of_load loaded linked

theorem declaredGraph_proper {policy : DuplicateEdges} {doc : Document}
    (loaded : Topology.load policy doc = .ok t) : (declaredGraph t).Proper := by
  intro pair declared
  obtain ⟨order, bound⟩ := pair_of_load loaded declared
  exact ⟨Nat.lt_trans order bound, bound, Nat.ne_of_lt order⟩

theorem declared_of_neighbour {policy : DuplicateEdges} {doc : Document}
    (loaded : Topology.load policy doc = .ok t) {x y : NodeId}
    (near : y ∈ (declaredGraph t).neighbours x) : orderedPair x y ∈ t.declaredPairs := by
  rcases MeshGraph.mem_neighbours.mp near with declared | declared
  · have order := (pair_of_load loaded declared).1
    rw [orderedPair_of_le (Nat.le_of_lt order)]
    exact declared
  · have order := (pair_of_load loaded declared).1
    rw [orderedPair_comm, orderedPair_of_le (Nat.le_of_lt order)]
    exact declared

theorem mem_relayJourneys {source target : NodeId} :
    (source, target) ∈ relayJourneys t ↔
      source < t.numRelays ∧ target < t.numRelays ∧ target ≠ source := by
  simp only [relayJourneys, Topology.relayIds, List.mem_flatMap, List.mem_map, List.mem_filter,
    List.mem_range, bne_iff_ne, Prod.mk.injEq]
  constructor
  · rintro ⟨x, boundX, y, ⟨boundY, different⟩, rfl, rfl⟩
    exact ⟨boundX, boundY, different⟩
  · rintro ⟨boundX, boundY, different⟩
    exact ⟨source, boundX, target, ⟨boundY, different⟩, rfl, rfl⟩

theorem nodup_relayJourneys (t : Topology) : (relayJourneys t).Nodup := by
  rw [relayJourneys, List.nodup_flatMap]
  have ids : t.relayIds.Nodup := List.nodup_range
  refine ⟨fun x _ => (ids.filter _).map fun _ _ same => (Prod.mk.inj same).2, ?_⟩
  refine ids.imp fun {x y} different => ?_
  intro journey first second
  obtain ⟨_, _, rfl⟩ := List.mem_map.mp first
  obtain ⟨_, _, same⟩ := List.mem_map.mp second
  exact different (Prod.mk.inj same).1.symm

theorem identity_spec {relay : NodeId} {a : Address} :
    identity p relay = .ok a ↔ p.identity? relay = some a := by
  unfold identity
  split
  · rename_i found
    rw [found, Except.ok.injEq, Option.some.injEq]
  · rename_i missing
    simp [missing]

theorem nextHopAddress_spec {source next : NodeId} {via : Address}
    (found : nextHopAddress p source next = .ok via) :
    ∃ l, p.backboneLink? source next = some l ∧ l.addressOf? next = some via := by
  unfold nextHopAddress at found
  split at found
  · rename_i address some_address
    cases found
    exact Option.bind_eq_some_iff.mp some_address
  · contradiction

theorem routeOver_spec {source target next : NodeId} {r : Route}
    (made : routeOver p source target next = .ok r) :
    r.onHost = source ∧ p.identity? target = some r.destination ∧
      ∃ l, p.backboneLink? source next = some l ∧ l.addressOf? next = some r.via := by
  simp only [routeOver, bind_ok, pure_ok] at made
  obtain ⟨destination, hd, via, hv, rfl⟩ := made
  exact ⟨rfl, identity_spec.mp hd, nextHopAddress_spec hv⟩

theorem mem_closer_iff {g : MeshGraph} (proper : g.Proper) {source target d y : NodeId}
    (inside : target < g.size) :
    y ∈ (g.neighbours source).filter (fun x =>
      (hops? g.distances x target).any (· + 1 == d + 1)) ↔
      g.graph.Adj source y ∧ g.graph.edist y target = d := by
  rw [List.mem_filter, ← MeshGraph.adj_iff proper, Option.any_eq_true]
  constructor
  · rintro ⟨step, e, known, hit⟩
    obtain rfl : e = d := by simpa using hit
    exact ⟨step, ((MeshGraph.hops?_eq_some_iff proper).mp known).2.2⟩
  · rintro ⟨step, distance⟩
    have bound := (MeshGraph.lt_of_adj proper step).2
    exact ⟨step, d, (MeshGraph.hops?_eq_some_iff proper).mpr ⟨bound, inside, distance⟩, by simp⟩

theorem nextHop?_spec {g : MeshGraph} (proper : g.Proper) {source target d next : NodeId}
    (inside : target < g.size)
    (found : nextHop? (g.neighbours source) g.distances target (d + 1) = some next) :
    IsLeast {y | g.graph.Adj source y ∧ g.graph.edist y target = d} next := by
  obtain ⟨member, least⟩ := List.min?_eq_some_iff.mp found
  constructor
  · exact (mem_closer_iff proper inside).mp member
  · intro y closer
    exact least y ((mem_closer_iff proper inside).mpr closer)

/-- A relay that is not yet at the target has a next hop, the second node of a shortest walk or one
before it. -/
theorem exists_nextHop? {g : MeshGraph} (proper : g.Proper) {source target d : NodeId}
    (inside : target < g.size) (distance : g.graph.edist source target = (d + 1 : Nat)) :
    ∃ next, nextHop? (g.neighbours source) g.distances target (d + 1) = some next := by
  obtain ⟨y, near, closer⟩ := MeshGraph.closer_of_edist_succ distance
  rw [← Option.isSome_iff_exists, nextHop?]
  exact List.isSome_min?_of_mem ((mem_closer_iff proper inside).mpr ⟨near, closer⟩)

theorem nextHop?_of_adj {g : MeshGraph} (proper : g.Proper) {x y : NodeId}
    (near : g.graph.Adj x y) : nextHop? (g.neighbours x) g.distances y 1 = some y := by
  have inside := (MeshGraph.lt_of_adj proper near).2
  have distance : g.graph.edist x y = (0 + 1 : Nat) := by
    simp [SimpleGraph.edist_eq_one_iff_adj.mpr near]
  obtain ⟨next, chosen⟩ := exists_nextHop? proper inside distance
  have here : g.graph.edist next y = (0 : Nat) := (nextHop?_spec proper inside chosen).1.2
  rw [Nat.cast_zero, SimpleGraph.edist_eq_zero_iff] at here
  rw [← here]
  exact here ▸ chosen

theorem shortestPathRoute_spec {g : MeshGraph} {tables : Array HopTable} {source target : NodeId}
    {r : Route} (route : shortestPathRoute t p g tables source target = .ok r) :
    ∃ next ∈ g.neighbours source, routeOver p source target next = .ok r := by
  unfold shortestPathRoute at route
  split at route
  · contradiction
  · split at route
    · contradiction
    · rename_i chosen
      exact ⟨_, (List.mem_filter.mp (List.min?_mem chosen)).1, route⟩

section Mesh

variable {policy : DuplicateEdges} {doc : Document} (loaded : Topology.load policy doc = .ok t)
  {mode : MeshMode} {relays : List Route} (made : meshRoutes t p mode = .ok relays)
include loaded made

theorem meshRoutes_each : List.Forall₂ (fun journey r => ∃ next,
      orderedPair journey.1 next ∈ t.links mode ∧
        routeOver p journey.1 journey.2 next = .ok r) (relayJourneys t) relays := by
  cases mode with
  | full =>
    have own : ∀ journey ∈ relayJourneys t, journey ∈ relayJourneys t := fun _ member => member
    refine ((List.forall₂_and_left _ _).mpr ⟨own, Checked.mapM_ok.mp made⟩).imp ?_
    rintro ⟨source, target⟩ r ⟨journey, route⟩
    obtain ⟨boundS, boundT, different⟩ := mem_relayJourneys.mp journey
    exact ⟨target, Topology.orderedPair_mem_allPairs boundS boundT different.symm, route⟩
  | declared =>
    refine (Checked.mapM_ok.mp made).imp ?_
    rintro ⟨source, target⟩ r route
    obtain ⟨next, near, direct⟩ := shortestPathRoute_spec route
    exact ⟨next, declared_of_neighbour loaded near, direct⟩

theorem meshRoutes_spec {r : Route} (member : r ∈ relays) :
    ∃ source target next, (source, target) ∈ relayJourneys t ∧
      orderedPair source next ∈ t.links mode ∧ routeOver p source target next = .ok r := by
  obtain ⟨⟨source, target⟩, journey, next, linked, route⟩ :=
    Checked.exists_of_forall₂ (meshRoutes_each loaded made) member
  exact ⟨source, target, next, journey, linked, route⟩

theorem meshRoutes_journeys (distinct : p.addresses.Nodup) :
    relays.map (fun r => (r.onHost, p.identityAddresses.idxOf r.destination)) =
      relayJourneys t := by
  have each : relays.map (fun r => (r.onHost, p.identityAddresses.idxOf r.destination)) =
      (relayJourneys t).map id := by
    refine Checked.map_of_forall₂ (meshRoutes_each loaded made) _ _ ?_
    rintro ⟨source, target⟩ r ⟨next, _, route⟩
    obtain ⟨host, destination, _⟩ := routeOver_spec route
    rw [host, AddressPlan.idxOf_identity distinct destination, id]
  rw [each, List.map_id]

theorem nodup_meshRoutes (distinct : p.addresses.Nodup) :
    (relays.map fun r => (r.onHost, r.destination)).Nodup := by
  apply List.Nodup.of_map fun key : NodeId × Address => (key.1, p.identityAddresses.idxOf key.2)
  rw [List.map_map]
  exact meshRoutes_journeys loaded made distinct ▸ nodup_relayJourneys t

end Mesh

theorem clientRoutes_spec {clients : List Route} (made : clientRoutes p = .ok clients) {r : Route}
    (member : r ∈ clients) :
    ∃ a ∈ p.attachments, r.onHost = a.host ∧ p.identity? a.relay = some r.destination ∧
      r.via = a.relayAddress := by
  obtain ⟨a, attached, route⟩ := Checked.mem_of_mapM_ok made member
  simp only [bind_ok, pure_ok] at route
  obtain ⟨destination, found, rfl⟩ := route
  exact ⟨a, attached, rfl, identity_spec.mp found, rfl⟩

theorem synthesize_spec {mode : MeshMode} {routes : List Route}
    (made : synthesize t p mode = .ok routes) :
    ∃ relays clients, meshRoutes t p mode = .ok relays ∧ clientRoutes p = .ok clients ∧
      routes = relays ++ clients := by
  simp only [synthesize, bind_ok, pure_ok] at made
  obtain ⟨relays, hr, clients, hc, rfl⟩ := made
  exact ⟨relays, clients, hr, hc, rfl⟩

end Routing

end RelayMesh
