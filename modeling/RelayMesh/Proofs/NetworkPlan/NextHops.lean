import RelayMesh.Proofs.NetworkPlan.Links
import RelayMesh.Proofs.Routing.Forwarding

namespace RelayMesh

def Link.Connects (l : Link) (x y : NodeId) : Prop :=
  (l.a = x ∧ l.b = y) ∨ (l.a = y ∧ l.b = x)

def Topology.IsClient (t : Topology) (id : NodeId) : Prop :=
  ∃ node ∈ t.nodes, node.id = id ∧ (node.kind = .publisher ∨ node.kind = .subscriber)

namespace NetworkPlan

/-- What a host needs to use a route: the interface of the next hop, which alone has the address, an
own interface in the same network, a link with this subnet between the two hosts, and one identity
with the destination. For a client, the next hop is the relay that it wants to reach. -/
structure Usable (p : NetworkPlan) (r : Route) (hop own goal : Interface) : Prop where
  hop_only : p.interfaces.filter (fun i => i.network.address == r.via) = [hop]
  hop_other : hop.host ≠ r.onHost
  own_mem : own ∈ p.interfaces
  own_host : own.host = r.onHost
  same_network : own.network.truncated = hop.network.truncated
  linked : ∃ l ∈ p.links, l.Connects r.onHost hop.host ∧ l.subnet = hop.network.truncated
  goal_only : p.interfaces.filter (fun i => i.network.address == r.destination) = [goal]
  goal_identity : goal.role = .identity
  client : p.topology.IsClient r.onHost →
    p.topology.isRelay hop.host ∧ goal.host = hop.host

/-- A link of a plan, seen from a host that has an interface on it, to another that has one too. -/
structure Crossing (p : NetworkPlan) (own hop : Interface) : Prop where
  own_mem : own ∈ p.interfaces
  hop_mem : hop ∈ p.interfaces
  hop_other : hop.host ≠ own.host
  same_network : own.network.truncated = hop.network.truncated
  linked : ∃ l ∈ p.links, l.Connects own.host hop.host ∧ l.subnet = hop.network.truncated

section Compiled

variable {c : Configuration} {doc : Document} {p : NetworkPlan}
  (compiled : compile c doc = .ok p)
include compiled

theorem distinct_of_compile : p.addresses.addresses.Nodup := by
  obtain ⟨loaded, allocated, _⟩ := compile_spec compiled
  exact Routing.nodup_addresses_of_allocate loaded allocated

theorem only_interface {i : Interface} (member : i ∈ p.interfaces) :
    p.interfaces.filter (fun j => j.network.address == i.network.address) = [i] := by
  rw [interfaces_of_compile compiled] at member ⊢
  exact AddressPlan.only_interface (distinct_of_compile compiled) member

theorem goal_interface {relay : NodeId} {a : Address}
    (found : p.addresses.identity? relay = some a) :
    ∃ goal, p.interfaces.filter (fun i => i.network.address == a) = [goal] ∧
      goal.role = .identity ∧ goal.host = relay := by
  obtain ⟨goal, member, host, role, address⟩ := AddressPlan.identity_interface found
  rw [← interfaces_of_compile compiled] at member
  exact ⟨goal, address ▸ only_interface compiled member, role, host⟩

theorem usable_of_crossing {own hop : Interface} (crossing : p.Crossing own hop) {r : Route}
    (host : own.host = r.onHost) (via : hop.network.address = r.via) {relay : NodeId}
    (destination : p.addresses.identity? relay = some r.destination)
    (client : p.topology.IsClient r.onHost → p.topology.isRelay hop.host ∧ relay = hop.host) :
    ∃ goal, p.Usable r hop own goal := by
  obtain ⟨goal, goalOnly, goalRole, goalHost⟩ := goal_interface compiled destination
  refine ⟨goal, ?_⟩
  constructor
  · exact via ▸ only_interface compiled crossing.hop_mem
  · exact host ▸ crossing.hop_other
  · exact crossing.own_mem
  · exact host
  · exact crossing.same_network
  · exact host ▸ crossing.linked
  · exact goalOnly
  · exact goalRole
  · intro isClient
    obtain ⟨isRelay, reached⟩ := client isClient
    exact ⟨isRelay, goalHost.trans reached⟩

theorem backbone_crossing {source next : NodeId} {l : BackboneLink} {a : Address}
    (linked : orderedPair source next ∈ p.topology.links c.mesh)
    (found : p.addresses.backboneLink? source next = some l)
    (nextOwn : l.addressOf? next = some a) :
    ∃ own hop, p.Crossing own hop ∧ own.host = source ∧ hop.host = next ∧
      hop.network.address = a := by
  obtain ⟨loaded, _, built⟩ := build_of_compile compiled
  obtain ⟨member, ends⟩ := AddressPlan.backboneLink?_spec found
  obtain ⟨b, sourceOwn⟩ := BackboneLink.addressOf?_of_pair ends
  have pair : l.pair ∈ p.topology.links c.mesh := ends ▸ linked
  have chosen : l ∈ p.addresses.materialized (some (p.topology.links c.mesh)) :=
    List.mem_filter.mpr ⟨member, List.contains_iff_mem.mpr pair⟩
  obtain ⟨hop, hopListed, rfl, hopAddress⟩ := AddressPlan.backbone_interface nextOwn
  obtain ⟨own, ownListed, rfl, _⟩ := AddressPlan.backbone_interface sourceOwn
  have present : ∀ i ∈ AddressPlan.backboneInterfaces l, i ∈ p.interfaces := by
    intro i listed
    rw [interfaces_of_compile compiled]
    exact AddressPlan.backbone_listed chosen listed
  have hopPlace := AddressPlan.backbone_place built member hopListed
  have ownPlace := AddressPlan.backbone_place built member ownListed
  refine ⟨own, hop, ?_, rfl, rfl, hopAddress⟩
  constructor
  · exact present own ownListed
  · exact present hop hopListed
  · intro same
    have order := (Routing.links_of_load loaded linked).1
    rw [same, orderedPair_of_le (Nat.le_refl own.host)] at order
    exact Nat.lt_irrefl own.host order
  · rw [ownPlace, hopPlace]
  · refine ⟨backboneLink l, ?_, ?_, hopPlace.symm⟩
    · rw [links_of_compile compiled, List.mem_append, mem_pointLinks]
      exact .inl (.inl ⟨l, chosen, rfl⟩)
    · rcases orderedPair_eq own.host hop.host with same | same
      · exact .inl (Prod.mk.inj (ends.trans same))
      · exact .inr (Prod.mk.inj (ends.trans same))

theorem attachment_crossing {a : AttachmentLink} (member : a ∈ p.addresses.attachments) :
    p.Crossing ⟨a.host, .attachment a.relay a.track, a.subnet.network.withAddress a.hostAddress⟩
      ⟨a.relay, .attachment a.host a.track, a.subnet.network.withAddress a.relayAddress⟩ := by
  obtain ⟨loaded, _, built⟩ := build_of_compile compiled
  obtain ⟨below, above⟩ := Topology.attachments_of_load loaded
    (AddressPlan.attachment_of_build built member)
  have present : ∀ i ∈ AddressPlan.attachmentInterfaces a, i ∈ p.interfaces := by
    intro i listed
    rw [interfaces_of_compile compiled]
    exact AddressPlan.attachment_listed member listed
  have relaySide := AddressPlan.attachment_place built member List.mem_cons_self
  have hostSide := AddressPlan.attachment_place built member
    (List.mem_cons_of_mem _ List.mem_cons_self)
  constructor
  · exact present _ (List.mem_cons_of_mem _ List.mem_cons_self)
  · exact present _ List.mem_cons_self
  · exact Nat.ne_of_lt (Nat.lt_of_lt_of_le below above)
  · rw [hostSide, relaySide]
  · refine ⟨attachmentLink a, ?_, .inr ⟨rfl, rfl⟩, relaySide.symm⟩
    rw [links_of_compile compiled, List.mem_append, mem_pointLinks]
    exact .inl (.inr ⟨a, member, rfl⟩)

theorem relay_route_usable {source target next : NodeId} {r : Route}
    (inside : source < p.topology.numRelays)
    (linked : orderedPair source next ∈ p.topology.links c.mesh)
    (route : Routing.routeOver p.addresses source target next = .ok r) :
    ∃ hop own goal, p.Usable r hop own goal := by
  obtain ⟨loaded, _⟩ := compile_spec compiled
  obtain ⟨host, destination, l, found, nextOwn⟩ := Routing.routeOver_spec route
  obtain ⟨own, hop, crossing, ownHost, _, via⟩ := backbone_crossing compiled linked found nextOwn
  refine ⟨hop, own, usable_of_crossing compiled crossing (ownHost.trans host.symm) via
    destination ?_⟩
  rintro ⟨node, listed, id, kind⟩
  have relay := Topology.kind_of_load loaded listed (id.trans host ▸ inside)
  rw [relay] at kind
  rcases kind with kind | kind <;> contradiction

theorem client_route_usable {a : AttachmentLink} (member : a ∈ p.addresses.attachments) {r : Route}
    (host : r.onHost = a.host) (destination : p.addresses.identity? a.relay = some r.destination)
    (via : r.via = a.relayAddress) : ∃ hop own goal, p.Usable r hop own goal := by
  obtain ⟨loaded, _, built⟩ := build_of_compile compiled
  have below := (Topology.attachments_of_load loaded
    (AddressPlan.attachment_of_build built member)).1
  exact ⟨_, _, usable_of_crossing compiled (attachment_crossing compiled member) host.symm via.symm
    destination fun _ => ⟨decide_eq_true below, rfl⟩⟩

/-- Every route of a compiled plan can be used, in both modes. -/
theorem routes_usable {r : Route} (member : r ∈ p.routes) :
    ∃ hop own goal, p.Usable r hop own goal := by
  obtain ⟨loaded, _, made, _⟩ := compile_spec compiled
  obtain ⟨relays, clients, relayPart, clientPart, parts⟩ := Routing.synthesize_spec made
  rw [parts] at member
  rcases List.mem_append.mp member with member | member
  · obtain ⟨source, target, next, journey, linked, route⟩ :=
      Routing.meshRoutes_spec loaded relayPart member
    exact relay_route_usable compiled (Routing.mem_relayJourneys.mp journey).1 linked route
  · obtain ⟨a, attached, host, destination, via⟩ := Routing.clientRoutes_spec clientPart member
    exact client_route_usable compiled attached host destination via

end Compiled

def declaredSquare : NetworkPlan :=
  (compile { addressing := AddressPlan.narrowSpace, mesh := .declared }
    Topology.squareDocument).toOption.getD default

theorem declaredSquare_route_usable :
    compile { addressing := AddressPlan.narrowSpace, mesh := .declared } Topology.squareDocument =
        .ok declaredSquare ∧
      ⟨0, .ofOctets 10 3 0 76, .ofOctets 255 255 255 241⟩ ∈ declaredSquare.routes ∧
      ∃ hop own goal, declaredSquare.Usable
        ⟨0, .ofOctets 10 3 0 76, .ofOctets 255 255 255 241⟩ hop own goal :=
  have compiled : compile { addressing := AddressPlan.narrowSpace, mesh := .declared }
      Topology.squareDocument = .ok declaredSquare := by cbv
  have entry : declaredSquare.routes[2]? =
      some ⟨0, .ofOctets 10 3 0 76, .ofOctets 255 255 255 241⟩ := by cbv
  have member := List.mem_of_getElem? entry
  ⟨compiled, member, routes_usable compiled member⟩

end NetworkPlan

end RelayMesh
