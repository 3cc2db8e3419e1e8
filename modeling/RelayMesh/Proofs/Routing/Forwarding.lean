import Mathlib
import RelayMesh.Proofs.Routing.Routes

namespace RelayMesh.Routing

open Checked (bind_ok pure_ok)
open MeshGraph (hops?)

def only? {α : Type} : List α → Option α
  | [a] => some a
  | _ => none

/-- The relay to which a packet for a target goes next: the owner of the address that is named by
the route for the identity of the target. There must be one route and one owner. -/
def forward? (p : AddressPlan) (routes : List Route) (target x : NodeId) : Option NodeId := do
  let destination ← p.identity? target
  let route ← only? (routes.filter fun r => r.onHost == x && r.destination == destination)
  only? (p.backboneOwners route.via)

def trail (p : AddressPlan) (routes : List Route) (target : NodeId) :
    Nat → NodeId → Option (List NodeId)
  | 0, x => some [x]
  | steps + 1, x => do
    let y ← forward? p routes target x
    let rest ← trail p routes target steps y
    return x :: rest

/-- A step to the lowest of the neighbours that are one hop closer to a target. -/
def ClosestStep (t : Topology) (target x y : NodeId) : Prop :=
  orderedPair x y ∈ t.declaredPairs ∧
    IsLeast {z | t.declaredMesh.Adj x z ∧
      t.declaredMesh.dist z target + 1 = t.declaredMesh.dist x target} y

section Synthesized

variable {policy : DuplicateEdges} {doc : Document} {s : AddressSpace} {t : Topology}
  {p : AddressPlan} {routes : List Route}
  (loaded : Topology.load policy doc = .ok t) (allocated : s.allocate t = .ok p)
include loaded allocated

theorem nodup_addresses_of_allocate : p.addresses.Nodup := by
  obtain ⟨accepted, built⟩ := AddressSpace.allocate_spec.mp allocated
  exact AddressPlan.nodup_addresses accepted
    (fun a member => (Topology.attachments_of_load loaded member).1) built

theorem only_route {mode : MeshMode} (made : synthesize t p mode = .ok routes)
    {relays : List Route} (part : meshRoutes t p mode = .ok relays) {r : Route}
    (member : r ∈ relays) :
    routes.filter (fun q => q.onHost == r.onHost && q.destination == r.destination) = [r] := by
  have distinct := nodup_addresses_of_allocate loaded allocated
  have journeys := meshRoutes_journeys loaded part distinct
  obtain ⟨relays', clients, part', client, rfl⟩ := synthesize_spec made
  obtain rfl := Except.ok.inj (part.symm.trans part')
  have others : clients.filter (fun q => q.onHost == r.onHost && q.destination == r.destination) =
      [] := by
    rw [List.filter_eq_nil_iff]
    intro q listed hit
    obtain ⟨a, attached, host, _⟩ := clientRoutes_spec client listed
    obtain ⟨_, built⟩ := AddressSpace.allocate_spec.mp allocated
    have above := (Topology.attachments_of_load loaded
      (AddressPlan.attachment_of_build built attached)).2
    have journey : (r.onHost, p.identityAddresses.idxOf r.destination) ∈ relayJourneys t :=
      journeys ▸ List.mem_map_of_mem member
    have below := (mem_relayJourneys.mp journey).1
    rw [Bool.and_eq_true, beq_iff_eq, host] at hit
    exact Nat.not_lt_of_le above (hit.1 ▸ below)
  rw [List.filter_append, others, List.append_nil]
  exact filter_eq_singleton (fun q : Route => (q.onHost, q.destination))
    (nodup_meshRoutes loaded part distinct) member

theorem forward_step (made : synthesize t p .declared = .ok routes) {target x d : Nat}
    (targetInside : target < t.numRelays) (inside : x < t.numRelays)
    (distance : t.declaredMesh.edist x target = (d + 1 : Nat)) :
    ∃ y, forward? p routes target x = some y ∧ orderedPair x y ∈ t.declaredPairs ∧
      IsLeast {z | t.declaredMesh.Adj x z ∧ t.declaredMesh.edist z target = d} y := by
  have proper := declaredGraph_proper loaded
  have distinct := nodup_addresses_of_allocate loaded allocated
  obtain ⟨relays, clients, part, _, _⟩ := synthesize_spec made
  have different : target ≠ x := by
    rintro rfl
    rw [SimpleGraph.edist_self] at distance
    have zero : 0 = d + 1 := by exact_mod_cast distance
    contradiction
  have known : hops? (declaredGraph t).distances x target = some (d + 1) := by
    rw [MeshGraph.hops?_eq_some_iff proper, graph_declaredGraph]
    exact ⟨inside, targetInside, distance⟩
  obtain ⟨r, member, route⟩ := Checked.exists_of_mapM_ok part
    (mem_relayJourneys.mpr ⟨inside, targetInside, different⟩)
  simp only [shortestPathRoute, known] at route
  split at route
  · contradiction
  · rename_i next chosen
    obtain ⟨host, destination, l, link, own⟩ := routeOver_spec route
    obtain ⟨listed, _⟩ := AddressPlan.backboneLink?_spec link
    have single := only_route loaded allocated made part member
    have declared := declared_of_neighbour loaded (List.mem_filter.mp (List.min?_mem chosen)).1
    refine ⟨next, ?_, declared, ?_⟩
    · rw [host] at single
      simp only [forward?, destination, Option.bind_eq_bind, Option.bind_some, single, only?,
        AddressPlan.backboneOwners_eq distinct listed own]
    · have least := nextHop?_spec proper targetInside chosen
      rwa [graph_declaredGraph] at least

/-- By induction on the distance: the first step goes one hop closer, and the relays after it are
closer than the first. -/
theorem trail_spec (made : synthesize t p .declared = .ok routes) {target : Nat}
    (targetInside : target < t.numRelays) (d : Nat) {x : Nat} (inside : x < t.numRelays)
    (distance : t.declaredMesh.edist x target = d) :
    ∃ rest, trail p routes target d x = some (x :: rest) ∧ rest.length = d ∧
      (x :: rest).getLast? = some target ∧ (x :: rest).Nodup ∧
      (∀ v ∈ x :: rest, t.declaredMesh.edist v target ≤ d) ∧
      (x :: rest).IsChain (ClosestStep t target) := by
  induction d generalizing x with
  | zero =>
    have here : x = target := SimpleGraph.edist_eq_zero_iff.mp distance
    subst here
    exact ⟨[], rfl, rfl, rfl, List.nodup_singleton x, by simp, List.isChain_singleton x⟩
  | succ d ih =>
    obtain ⟨y, hop, declared, least⟩ :=
      forward_step loaded allocated made targetInside inside distance
    have proper := declaredGraph_proper loaded
    have near : (declaredGraph t).graph.Adj x y := by
      rw [graph_declaredGraph]
      exact least.1.1
    obtain ⟨rest, walked, length, last, distinct, close, chain⟩ :=
      ih (MeshGraph.lt_of_adj proper near).2 least.1.2
    -- A loop is impossible since all that follows is closer.
    have fresh : x ∉ y :: rest := by
      intro member
      have bound := close x member
      rw [distance] at bound
      have impossible : d + 1 ≤ d := by exact_mod_cast bound
      omega
    refine ⟨y :: rest, ?_, ?_, ?_, ?_, ?_, ?_⟩
    · simp only [trail, hop, Option.bind_eq_bind, Option.bind_some, walked]
      rfl
    · rw [List.length_cons, length]
    · rw [List.getLast?_cons_cons, last]
    · exact List.nodup_cons.mpr ⟨fresh, distinct⟩
    · intro v member
      rcases List.mem_cons.mp member with rfl | member
      · exact distance.le
      · exact (close v member).trans (by exact_mod_cast Nat.le_succ d)
    · have same : {z | t.declaredMesh.Adj x z ∧ t.declaredMesh.edist z target = d} =
          {z | t.declaredMesh.Adj x z ∧
            t.declaredMesh.dist z target + 1 = t.declaredMesh.dist x target} :=
        Set.ext fun z => and_congr_right fun step => MeshGraph.closer_iff step distance
      exact List.isChain_cons_cons.mpr ⟨⟨declared, same ▸ least⟩, chain⟩

/-- In a declared mesh that has all its routes, packets between any two relays take a shortest path
of declared edges, step by step to the lowest neighbour on one, and meet no relay twice. -/
theorem forwarding_takes_shortest_path (made : synthesize t p .declared = .ok routes)
    {src dst : Nat} (srcInside : src < t.numRelays) (dstInside : dst < t.numRelays)
    (different : src ≠ dst) :
    t.declaredMesh.Reachable src dst ∧
      ∃ path, trail p routes dst (t.declaredMesh.dist src dst) src = some path ∧
        path.length = t.declaredMesh.dist src dst + 1 ∧ path.head? = some src ∧
        path.getLast? = some dst ∧ path.Nodup ∧ path.IsChain (ClosestStep t dst) := by
  obtain ⟨relays, clients, part, _, _⟩ := synthesize_spec made
  obtain ⟨r, _, route⟩ := Checked.exists_of_mapM_ok part
    (mem_relayJourneys.mpr ⟨srcInside, dstInside, different.symm⟩)
  simp only [shortestPathRoute] at route
  split at route
  · contradiction
  · rename_i d known
    have distance := ((MeshGraph.hops?_eq_some_iff (declaredGraph_proper loaded)).mp known).2.2
    rw [graph_declaredGraph] at distance
    obtain ⟨reachable, length⟩ := MeshGraph.dist_of_edist distance
    obtain ⟨rest, walked, steps, last, distinct, _, chain⟩ :=
      trail_spec loaded allocated made dstInside d srcInside distance
    rw [length]
    exact ⟨reachable, src :: rest, walked, congrArg Nat.succ steps, rfl, last, distinct, chain⟩

end Synthesized

def narrowRoutes : List Route :=
  (synthesize Topology.square AddressPlan.narrowPlan .declared).toOption.getD []

theorem forwarding_across_square :
    Topology.load .firstWins Topology.squareDocument = .ok Topology.square ∧
      AddressPlan.narrowSpace.allocate Topology.square = .ok AddressPlan.narrowPlan ∧
      synthesize Topology.square AddressPlan.narrowPlan .declared = .ok narrowRoutes ∧
      Topology.square.declaredMesh.Reachable 0 3 ∧
      ∃ path, trail AddressPlan.narrowPlan narrowRoutes 3
          (Topology.square.declaredMesh.dist 0 3) 0 = some path ∧
        path.length = Topology.square.declaredMesh.dist 0 3 + 1 ∧ path.head? = some 0 ∧
        path.getLast? = some 3 ∧ path.Nodup ∧ path.IsChain (ClosestStep Topology.square 3) :=
  have allocated : AddressPlan.narrowSpace.allocate Topology.square =
      .ok AddressPlan.narrowPlan := rfl
  have made : synthesize Topology.square AddressPlan.narrowPlan .declared = .ok narrowRoutes := by
    cbv
  ⟨Topology.load_square, allocated, made, forwarding_takes_shortest_path Topology.load_square
    allocated made (by decide) (by decide) (by decide)⟩

end RelayMesh.Routing
