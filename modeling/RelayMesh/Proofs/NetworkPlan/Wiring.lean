import RelayMesh.Proofs.Addressing.Form
import RelayMesh.Proofs.NetworkPlan.Links
import RelayMesh.Proofs.NetworkPlan.NextHops

namespace RelayMesh

open AddressPlan (backboneInterfaces attachmentInterfaces controlInterfaces)

def Link.ends (l : Link) : NodeId × NodeId :=
  (l.a, l.b)

namespace NetworkPlan

def interfacesOn (p : NetworkPlan) (host : NodeId) (network : Network) : List Interface :=
  p.interfaces.filter fun i => i.host == host && i.network.truncated == network

def relayLinks (p : NetworkPlan) : List Link :=
  p.links.filter fun l => p.topology.isRelay l.a && p.topology.isRelay l.b

def linkGraph (p : NetworkPlan) : SimpleGraph NodeId :=
  SimpleGraph.fromRel fun x y => ∃ l ∈ p.links, l.Connects x y

/-- Both ends of a link have one interface each on its subnet. An interface that is no identity and
not the uplink is on the subnet of a link of its host, and where it names a peer, this link is the
only one with the subnet and leads there. The links between relays are those of the mode, in order.
All nodes can be reached from the control node. -/
structure Wired (mode : MeshMode) (p : NetworkPlan) : Prop where
  ends : ∀ l ∈ p.links, (∃ i, p.interfacesOn l.a l.subnet = [i]) ∧
    ∃ i, p.interfacesOn l.b l.subnet = [i]
  incident : ∀ i ∈ p.interfaces, i.role ≠ .identity → i.role ≠ .controlUplink →
    ∃ l ∈ p.links, (l.a = i.host ∨ l.b = i.host) ∧ l.subnet = i.network.truncated
  peers : ∀ i ∈ p.interfaces, ∀ peer ∈ i.role.peer?,
    ∃ l, p.links.filter (fun k => k.subnet == i.network.truncated) = [l] ∧ l.Connects i.host peer
  ascending : (p.relayLinks.map (·.ends)).Pairwise Precedes
  materialized : ∀ x y, (x, y) ∈ p.relayLinks.map (·.ends) ↔
    x < y ∧ y < p.topology.numRelays ∧ (mode = .full ∨ p.topology.isDeclared x y = true)
  reachable : ∀ node ∈ p.topology.nodes, p.linkGraph.Reachable p.topology.control node.id

theorem adj_of_link {p : NetworkPlan} {l : Link} (member : l ∈ p.links) {x y : NodeId}
    (joined : l.Connects x y) (different : x ≠ y) : p.linkGraph.Adj x y :=
  (SimpleGraph.fromRel_adj _ x y).mpr ⟨different, .inl ⟨l, member, joined⟩⟩

section Compiled

variable {c : Configuration} {doc : Document} {p : NetworkPlan} (compiled : compile c doc = .ok p)
include compiled

theorem interfacesOn_eq {i : Interface} (member : i ∈ p.interfaces) :
    p.interfacesOn i.host i.network.truncated = [i] := by
  obtain ⟨loaded, accepted, built⟩ := build_of_compile compiled
  rw [interfacesOn, interfaces_of_compile compiled]
  rw [interfaces_of_compile compiled] at member
  exact AddressPlan.filter_place_eq built loaded accepted member

theorem exists_interfaces {l : Link} (member : l ∈ p.links) : ∃ present : List Interface,
    (∀ i ∈ present, i ∈ p.interfaces ∧ i.network.truncated = l.subnet) ∧
      l.a ∈ present.map (·.host) ∧ l.b ∈ present.map (·.host) := by
  obtain ⟨loaded, _, built⟩ := build_of_compile compiled
  rw [interfaces_of_compile compiled]
  rw [links_of_compile compiled, List.mem_append, mem_pointLinks] at member
  rcases member with (⟨k, chosen, rfl⟩ | ⟨a, attached, rfl⟩) | control
  · refine ⟨backboneInterfaces k, fun i listed => ⟨?_, ?_⟩, ?_⟩
    · exact AddressPlan.backbone_listed chosen listed
    · exact AddressPlan.backbone_place built (List.mem_filter.mp chosen).1 listed
    · simp [backboneInterfaces, backboneLink]
  · refine ⟨attachmentInterfaces a, fun i listed => ⟨?_, ?_⟩, ?_⟩
    · exact AddressPlan.attachment_listed attached listed
    · exact AddressPlan.attachment_place built attached listed
    · simp [attachmentInterfaces, attachmentLink]
  · obtain ⟨relay, inside, rfl⟩ := List.mem_map.mp control
    refine ⟨(controlInterfaces p.addresses.control).drop 1, fun i listed => ⟨?_, ?_⟩, ?_⟩
    · exact AddressPlan.segment_listed listed
    · exact AddressPlan.segment_place built listed
    · rw [AddressPlan.hosts_segment, AddressPlan.length_relayAddresses_of_build built]
      exact ⟨List.mem_cons_self, List.mem_cons_of_mem _ inside⟩

theorem interface_of_end {l : Link} (member : l ∈ p.links) :
    (∃ i, p.interfacesOn l.a l.subnet = [i]) ∧ ∃ i, p.interfacesOn l.b l.subnet = [i] := by
  obtain ⟨present, listed, first, second⟩ := exists_interfaces compiled member
  have single : ∀ x ∈ present.map (·.host), ∃ i, p.interfacesOn x l.subnet = [i] := by
    intro x host
    obtain ⟨i, here, rfl⟩ := List.mem_map.mp host
    obtain ⟨known, network⟩ := listed i here
    exact ⟨i, network ▸ interfacesOn_eq compiled known⟩
  exact ⟨single _ first, single _ second⟩

theorem link_of_backbone {k : BackboneLink}
    (chosen : k ∈ p.addresses.materialized (some (p.topology.links c.mesh))) {i : Interface}
    (listed : i ∈ backboneInterfaces k) :
    ∃ l, p.links.filter (fun m => m.subnet == i.network.truncated) = [l] ∧
      ∃ peer, i.role.peer? = some peer ∧ l.Connects i.host peer := by
  obtain ⟨_, _, built⟩ := build_of_compile compiled
  refine ⟨backboneLink k, ?_, ?_⟩
  · rw [AddressPlan.backbone_place built (List.mem_filter.mp chosen).1 listed]
    exact only_link compiled (mem_pointLinks.mpr (.inl ⟨k, chosen, rfl⟩))
  · simp only [backboneInterfaces, List.mem_cons, List.not_mem_nil, or_false] at listed
    rcases listed with rfl | rfl
    · exact ⟨k.b, rfl, .inl ⟨rfl, rfl⟩⟩
    · exact ⟨k.a, rfl, .inr ⟨rfl, rfl⟩⟩

theorem link_of_attachment {a : AttachmentLink} (attached : a ∈ p.addresses.attachments)
    {i : Interface} (listed : i ∈ attachmentInterfaces a) :
    ∃ l, p.links.filter (fun m => m.subnet == i.network.truncated) = [l] ∧
      ∃ peer, i.role.peer? = some peer ∧ l.Connects i.host peer := by
  obtain ⟨_, _, built⟩ := build_of_compile compiled
  refine ⟨attachmentLink a, ?_, ?_⟩
  · rw [AddressPlan.attachment_place built attached listed]
    exact only_link compiled (mem_pointLinks.mpr (.inr ⟨a, attached, rfl⟩))
  · simp only [attachmentInterfaces, List.mem_cons, List.not_mem_nil, or_false] at listed
    rcases listed with rfl | rfl
    · exact ⟨a.host, rfl, .inl ⟨rfl, rfl⟩⟩
    · exact ⟨a.relay, rfl, .inr ⟨rfl, rfl⟩⟩

/-- An interface identifies its relay, is the uplink, is at an end of the only link with its subnet, or
is on the segment. -/
theorem link_cases {i : Interface} (member : i ∈ p.interfaces) :
    i.role = .identity ∨ i.role = .controlUplink ∨
      (∃ l, p.links.filter (fun m => m.subnet == i.network.truncated) = [l] ∧
        ∃ peer, i.role.peer? = some peer ∧ l.Connects i.host peer) ∨
      i.role = .controlSegment ∧ i ∈ (controlInterfaces p.addresses.control).drop 1 := by
  rw [interfaces_of_compile compiled] at member
  rcases interface_cases member with identity | uplink | ⟨k, chosen, listed⟩ |
    ⟨a, attached, listed⟩ | segment
  · exact .inl identity
  · exact .inr (.inl uplink)
  · exact .inr (.inr (.inl (link_of_backbone compiled chosen listed)))
  · exact .inr (.inr (.inl (link_of_attachment compiled attached listed)))
  · exact .inr (.inr (.inr segment))

theorem link_of_segment {i : Interface}
    (listed : i ∈ (controlInterfaces p.addresses.control).drop 1) :
    ∃ l ∈ p.links, (l.a = i.host ∨ l.b = i.host) ∧ l.subnet = i.network.truncated := by
  obtain ⟨loaded, _, built⟩ := build_of_compile compiled
  have link : ∀ relay < p.topology.numRelays,
      ⟨p.addresses.control.control, relay, p.addresses.control.segment.network⟩ ∈ p.links := by
    intro relay inside
    rw [links_of_compile compiled, List.mem_append]
    exact .inr (List.mem_map_of_mem (List.mem_range.mpr inside))
  have host := List.mem_map_of_mem (f := Interface.host) listed
  rw [AddressPlan.hosts_segment, AddressPlan.length_relayAddresses_of_build built] at host
  rw [AddressPlan.segment_place built listed]
  rcases List.mem_cons.mp host with control | relay
  · exact ⟨_, link 0 (Topology.numRelays_pos_of_load loaded), .inl control.symm, rfl⟩
  · exact ⟨_, link i.host (List.mem_range.mp relay), .inr rfl, rfl⟩

theorem link_of_peer {i : Interface} (member : i ∈ p.interfaces) {peer : NodeId}
    (named : i.role.peer? = some peer) :
    ∃ l, p.links.filter (fun k => k.subnet == i.network.truncated) = [l] ∧
      l.Connects i.host peer := by
  rcases link_cases compiled member with role | role | ⟨l, single, other, own, joined⟩ | ⟨role, _⟩
  · rw [role] at named
    contradiction
  · rw [role] at named
    contradiction
  · obtain rfl := Option.some.inj (own.symm.trans named)
    exact ⟨l, single, joined⟩
  · rw [role] at named
    contradiction

theorem link_of_interface {i : Interface} (member : i ∈ p.interfaces)
    (noIdentity : i.role ≠ .identity) (noUplink : i.role ≠ .controlUplink) :
    ∃ l ∈ p.links, (l.a = i.host ∨ l.b = i.host) ∧ l.subnet = i.network.truncated := by
  rcases link_cases compiled member with role | role | ⟨l, single, _, _, joined⟩ | ⟨_, listed⟩
  · contradiction
  · contradiction
  · have kept : l ∈ p.links.filter (fun m => m.subnet == i.network.truncated) := by
      rw [single]
      exact List.mem_singleton_self l
    obtain ⟨present, subnet⟩ := List.mem_filter.mp kept
    exact ⟨l, present, joined.imp And.left And.right, eq_of_beq subnet⟩
  · exact link_of_segment compiled listed

theorem relayLinks_ends : p.relayLinks.map (·.ends) = p.topology.links c.mesh := by
  obtain ⟨loaded, _, built⟩ := build_of_compile compiled
  have inner : ∀ l ∈ (p.addresses.materialized (some (p.topology.links c.mesh))).map backboneLink,
      (p.topology.isRelay l.a && p.topology.isRelay l.b) = true := by
    intro l member
    obtain ⟨k, chosen, rfl⟩ := List.mem_map.mp member
    obtain ⟨order, inside⟩ := AddressPlan.ends_of_build built (List.mem_filter.mp chosen).1
    exact Bool.and_eq_true_iff.mpr
      ⟨decide_eq_true (Nat.lt_trans order inside), decide_eq_true inside⟩
  have outer : ∀ l ∈ p.addresses.attachments.map attachmentLink ++
      controlLinks p.topology p.addresses.control,
      ¬ (p.topology.isRelay l.a && p.topology.isRelay l.b) = true := by
    intro l member
    rw [outer_of_build loaded built member]
    exact Bool.false_ne_true
  rw [relayLinks, links_of_compile compiled, pointLinks, List.append_assoc, List.filter_append,
    List.filter_eq_self.mpr inner, List.filter_eq_nil_iff.mpr outer, List.append_nil, List.map_map]
  exact pairs_materialized loaded built c.mesh

theorem relay_reachable {relay : NodeId} (inside : relay < p.topology.numRelays) :
    p.linkGraph.Reachable p.topology.control relay := by
  obtain ⟨loaded, _, built⟩ := build_of_compile compiled
  have link : ⟨p.topology.control, relay, p.addresses.control.segment.network⟩ ∈ p.links := by
    rw [links_of_compile compiled, List.mem_append, ← AddressPlan.control_of_build built]
    exact .inr (List.mem_map_of_mem (List.mem_range.mpr inside))
  have different : p.topology.control ≠ relay := by
    rw [Topology.control_of_load loaded]
    exact Nat.ne_of_gt (Nat.lt_add_right _ inside)
  exact (adj_of_link link (.inl ⟨rfl, rfl⟩) different).reachable

theorem node_reachable {id : NodeId} (node : p.topology.HasNode id) :
    p.linkGraph.Reachable p.topology.control id := by
  obtain ⟨loaded, _, built⟩ := build_of_compile compiled
  rcases Topology.node_cases loaded node with relay | ⟨a, attached, rfl⟩ | rfl
  · exact relay_reachable compiled relay
  · obtain ⟨below, above⟩ := Topology.attachments_of_load loaded attached
    obtain ⟨k, known, rfl⟩ := AddressPlan.exists_link_of_build loaded built attached
    have link : attachmentLink k ∈ p.links := by
      rw [links_of_compile compiled, List.mem_append, mem_pointLinks]
      exact .inl (.inr ⟨k, known, rfl⟩)
    have different := Nat.ne_of_lt (Nat.lt_of_lt_of_le below above)
    exact (relay_reachable compiled below).trans
      (adj_of_link link (.inl ⟨rfl, rfl⟩) different).reachable
  · exact SimpleGraph.Reachable.refl _

/-- The lists of links and of interfaces describe the same network, whatever the mode. -/
theorem wired_of_compile : Wired c.mesh p := by
  obtain ⟨loaded, _⟩ := build_of_compile compiled
  constructor
  · exact fun l member => interface_of_end compiled member
  · exact fun i member noIdentity noUplink => link_of_interface compiled member noIdentity noUplink
  · exact fun i member peer named => link_of_peer compiled member named
  · rw [relayLinks_ends compiled, Topology.links_eq_filter loaded]
    exact (pairwise_pairsBelow p.topology.numRelays).filter _
  · intro x y
    rw [relayLinks_ends compiled, Topology.links_eq_filter loaded, List.mem_filter,
      Topology.allPairs, mem_pairsBelow, Bool.or_eq_true, beq_iff_eq, and_assoc]
  · exact fun node member => node_reachable compiled (Topology.hasNode_id loaded member)

end Compiled

/-- The square with its edges has ten links: four between relays, two to clients, and four of the
control node. -/
theorem declaredSquare_wired :
    compile { addressing := AddressPlan.narrowSpace, mesh := .declared } Topology.squareDocument =
        .ok declaredSquare ∧
      declaredSquare.links.length = 10 ∧ declaredSquare.relayLinks.length = 4 ∧
      Wired .declared declaredSquare :=
  have compiled : compile { addressing := AddressPlan.narrowSpace, mesh := .declared }
      Topology.squareDocument = .ok declaredSquare := by cbv
  ⟨compiled, by cbv, by cbv, wired_of_compile compiled⟩

end NetworkPlan

end RelayMesh
