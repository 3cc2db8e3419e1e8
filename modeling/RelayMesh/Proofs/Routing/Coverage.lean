import RelayMesh.Proofs.Addressing.Completeness
import RelayMesh.Proofs.Addressing.Interfaces
import RelayMesh.Proofs.Routing.Connectivity
import RelayMesh.Proofs.Routing.Forwarding

namespace RelayMesh.Routing

open Checked (bind_ok pure_ok)

def Leads (p : AddressPlan) (journey : NodeId × NodeId) (r : Route) : Prop :=
  r.onHost = journey.1 ∧ p.identity? journey.2 = some r.destination

/-- The route of a client to its relay, over the address of the relay on the subnet of both. -/
structure Serves (p : AddressPlan) (a : Attachment) (r : Route) : Prop where
  host : r.onHost = a.host
  destination : p.identity? a.relay = some r.destination
  via : ∃ link, p.attachmentOfHost? a.host = some link ∧ link.origin.1 = a ∧
    link.subnet.network.HoldsHost r.via ∧
    ⟨a.relay, .attachment a.host a.track, link.subnet.network.withAddress r.via⟩ ∈
      p.interfaces none

/-- The routes are those between relays, journey by journey, and those of the clients. -/
structure Covers (t : Topology) (p : AddressPlan) (routes : List Route) : Prop where
  parts : ∃ journeys clients between toRelays, routes = between ++ toRelays ∧
    journeys.Pairwise Precedes ∧
    (∀ x y, (x, y) ∈ journeys ↔ x < t.numRelays ∧ y < t.numRelays ∧ y ≠ x) ∧
    List.Forall₂ (Leads p) journeys between ∧
    clients.Perm t.attachments ∧ List.Forall₂ (Serves p) clients toRelays
  relays : ∀ x y, x < t.numRelays → y < t.numRelays → y ≠ x → ∃ destination r,
    p.identity? y = some destination ∧
      routes.filter (fun q => q.onHost == x && q.destination == destination) = [r]
  clients : ∀ a ∈ t.attachments, ∃ r, Serves p a r ∧
    routes.filter (fun q => q.onHost == a.host) = [r]
  count : routes.length = t.numRelays * (t.numRelays - 1) + t.attachments.length
  single : (routes.map fun r => (r.onHost, r.destination)).Nodup

variable {policy : DuplicateEdges} {doc : Document} {s : AddressSpace} {t : Topology}
  {p : AddressPlan}

theorem length_relayJourneys (t : Topology) :
    (relayJourneys t).length = t.numRelays * (t.numRelays - 1) := by
  have others : ∀ source ∈ t.relayIds,
      ((t.relayIds.filter (· != source)).map fun target => (source, target)).length =
        t.numRelays - 1 := by
    intro source member
    have ids : t.relayIds.Nodup := List.nodup_range
    rw [List.length_map, ← ids.erase_eq_filter, List.length_erase_of_mem member,
      Topology.relayIds, List.length_range]
  rw [relayJourneys, List.length_flatMap, List.map_congr_left others, List.map_const',
    List.sum_replicate, Topology.relayIds, List.length_range, smul_eq_mul]

theorem meshRoutes_leads (loaded : Topology.load policy doc = .ok t) {mode : MeshMode}
    {relays : List Route} (made : meshRoutes t p mode = .ok relays) :
    List.Forall₂ (Leads p) (relayJourneys t) relays := by
  refine (meshRoutes_each loaded made).imp ?_
  rintro journey r ⟨next, _, route⟩
  obtain ⟨host, destination, _⟩ := routeOver_spec route
  exact ⟨host, destination⟩

section Built

variable (loaded : Topology.load policy doc = .ok t) (built : s.build t = .ok p)
include loaded built

theorem serves_of_build {link : AttachmentLink} (member : link ∈ p.attachments) {r : Route}
    (host : r.onHost = link.host) (destination : p.identity? link.relay = some r.destination)
    (via : r.via = link.relayAddress) : Serves p link.origin.1 r := by
  obtain ⟨_, _, attachments, _⟩ := AddressSpace.build_spec built
  have joins := ((AddressSpace.attachments_spec attachments).2.2 link member).2
  refine ⟨host, destination, link, ?_, rfl, ?_, ?_⟩
  · exact AddressPlan.attachmentOfHost?_of_build loaded built member
  · exact via ▸ joins.holdsHost.1
  · apply (p.interfaces_sublist []).subset
    exact AddressPlan.attachment_listed member (via ▸ List.mem_cons_self)

theorem clientRoutes_serves {clients : List Route} (made : clientRoutes p = .ok clients) :
    List.Forall₂ (Serves p) (p.attachments.map (·.origin.1)) clients := by
  have listed : ∀ link ∈ p.attachments, link ∈ p.attachments := fun _ member => member
  rw [List.forall₂_map_left_iff]
  refine ((List.forall₂_and_left _ _).mpr ⟨listed, Checked.mapM_ok.mp made⟩).imp ?_
  rintro link r ⟨member, route⟩
  simp only [bind_ok, pure_ok] at route
  obtain ⟨destination, found, rfl⟩ := route
  exact serves_of_build loaded built member rfl (identity_spec.mp found) rfl

end Built

theorem hosts_clientRoutes {clients : List Route} (made : clientRoutes p = .ok clients) :
    clients.map (·.onHost) = p.attachments.map (·.host) := by
  refine Checked.map_of_mapM_ok made _ _ fun link r route => ?_
  simp only [bind_ok, pure_ok] at route
  obtain ⟨_, _, rfl⟩ := route
  rfl

/-- Whatever the mode of the mesh, its routes are complete and none is there twice. -/
theorem routes_cover (loaded : Topology.load policy doc = .ok t) (allocated : s.allocate t = .ok p)
    {mode : MeshMode} {routes : List Route} (made : synthesize t p mode = .ok routes) :
    Covers t p routes := by
  obtain ⟨_, built⟩ := AddressSpace.allocate_spec.mp allocated
  obtain ⟨relays, clients, relayPart, clientPart, rfl⟩ := synthesize_spec made
  have leads := meshRoutes_leads loaded relayPart
  have serves := clientRoutes_serves loaded built clientPart
  have perm := AddressPlan.perm_attachments_of_build loaded built
  have hosts : (clients.map (·.onHost)).Nodup := by
    rw [hosts_clientRoutes clientPart]
    exact AddressPlan.nodup_hosts_of_build loaded built
  have relayHosts : ∀ r ∈ relays, r.onHost < t.numRelays := by
    intro r member
    obtain ⟨journey, listed, host, _⟩ := Checked.exists_of_forall₂ leads member
    exact host ▸ (mem_relayJourneys.mp listed).1
  have clientHosts : ∀ r ∈ clients, t.numRelays ≤ r.onHost := by
    intro r member
    obtain ⟨a, listed, served⟩ := Checked.exists_of_forall₂ serves member
    exact served.host ▸ (Topology.attachments_of_load loaded (perm.mem_iff.mp listed)).2
  constructor
  · exact ⟨relayJourneys t, _, relays, clients, rfl, relayJourneys_ascending t,
      fun x y => mem_relayJourneys, leads, perm, serves⟩
  · intro x y insideX insideY different
    obtain ⟨r, member, host, destination⟩ := Checked.exists_of_forall₂ leads.flip
      (mem_relayJourneys.mpr ⟨insideX, insideY, different⟩)
    have single := only_route loaded allocated made relayPart member
    rw [host] at single
    exact ⟨r.destination, r, destination, single⟩
  · intro a member
    obtain ⟨r, listed, served⟩ := Checked.exists_of_forall₂ serves.flip (perm.mem_iff.mpr member)
    refine ⟨r, served, ?_⟩
    have others : relays.filter (fun q => q.onHost == a.host) = [] := by
      rw [List.filter_eq_nil_iff]
      intro q between same
      have above := (Topology.attachments_of_load loaded member).2
      rw [← eq_of_beq same] at above
      exact Nat.not_lt_of_le above (relayHosts q between)
    rw [List.filter_append, others, List.nil_append, ← served.host]
    exact filter_eq_singleton (fun q : Route => q.onHost) hosts listed
  · rw [List.length_append, ← leads.length_eq, length_relayJourneys, ← serves.length_eq,
      perm.length_eq]
  · have distinct := nodup_addresses_of_allocate loaded allocated
    rw [List.map_append, List.nodup_append]
    refine ⟨nodup_meshRoutes loaded relayPart distinct, ?_, ?_⟩
    · apply List.Nodup.of_map Prod.fst
      rwa [List.map_map]
    · intro x between y toRelay same
      obtain ⟨q, memberQ, rfl⟩ := List.mem_map.mp between
      obtain ⟨r, memberR, rfl⟩ := List.mem_map.mp toRelay
      have below := relayHosts q memberQ
      rw [(Prod.mk.inj same).1] at below
      exact Nat.not_lt_of_le (clientHosts r memberR) below

theorem narrowRoutes_cover :
    Topology.load .firstWins Topology.squareDocument = .ok Topology.square ∧
      AddressPlan.narrowSpace.allocate Topology.square = .ok AddressPlan.narrowPlan ∧
      synthesize Topology.square AddressPlan.narrowPlan .declared = .ok narrowRoutes ∧
      narrowRoutes.length = 14 ∧ Covers Topology.square AddressPlan.narrowPlan narrowRoutes :=
  have allocated : AddressPlan.narrowSpace.allocate Topology.square =
      .ok AddressPlan.narrowPlan := rfl
  have made : synthesize Topology.square AddressPlan.narrowPlan .declared = .ok narrowRoutes := by
    cbv
  have cover := routes_cover Topology.load_square allocated made
  ⟨Topology.load_square, allocated, made, cover.count, cover⟩

end RelayMesh.Routing
