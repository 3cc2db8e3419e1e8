import RelayMesh.Proofs.Addressing.Capacity
import RelayMesh.Proofs.Addressing.Completeness
import RelayMesh.Proofs.Addressing.Form
import RelayMesh.Proofs.Delay.Values
import RelayMesh.Proofs.Launch.Stages
import RelayMesh.Proofs.NetworkPlan.Stages

namespace RelayMesh

namespace Interface

/-- The host of an interface and the neighbour that its role names are nodes. -/
structure Within (i : Interface) (t : Topology) : Prop where
  host : t.HasNode i.host
  peer : ∀ peer ∈ i.role.peer?, t.HasNode peer

variable {i : Interface} {t : Topology}

theorem Within.alone (host : t.HasNode i.host) (none : i.role.peer? = none) : i.Within t :=
  ⟨host, by simp [none]⟩

theorem Within.between {peer : NodeId} (host : t.HasNode i.host) (other : t.HasNode peer)
    (named : i.role.peer? = some peer) : i.Within t :=
  ⟨host, by simp [named, other]⟩

end Interface

namespace AddressPlan

structure Within (p : AddressPlan) (t : Topology) : Prop where
  identities : p.identities.length = t.numRelays
  attachments : ∀ a ∈ p.attachments, a.relay < t.numRelays ∧ t.HasNode a.host ∧
    a.attachment < t.attachments.length
  backbone : ∀ l ∈ p.backbone, l.a < t.numRelays ∧ l.b < t.numRelays
  control : p.control.control = t.control
  segment : p.control.relayAddresses.length = t.numRelays

theorem within_of_build {policy : DuplicateEdges} {doc : Document} {s : AddressSpace}
    {t : Topology} {p : AddressPlan} (loaded : Topology.load policy doc = .ok t)
    (built : s.build t = .ok p) : p.Within t := by
  constructor
  · exact length_identities_of_build built
  · intro a member
    have origin := origin_of_build built member
    have attachment := List.fst_mem_of_mem_zipIdx origin
    exact ⟨(Topology.attachments_of_load loaded attachment).1,
      Topology.hasNode_host loaded attachment, by
        simpa [AttachmentLink.origin] using List.snd_lt_of_mem_zipIdx origin⟩
  · intro l member
    obtain ⟨order, bound⟩ := ends_of_build built member
    exact ⟨Nat.lt_trans order bound, bound⟩
  · exact control_of_build built
  · exact length_relayAddresses_of_build built

section Loaded

variable {policy : DuplicateEdges} {doc : Document} {t : Topology} {p : AddressPlan}
  (loaded : Topology.load policy doc = .ok t) (within : p.Within t)
include loaded within

theorem within_backboneInterface {l : BackboneLink} (member : l ∈ p.backbone) {i : Interface}
    (listed : i ∈ backboneInterfaces l) : i.Within t := by
  obtain ⟨boundA, boundB⟩ := within.backbone l member
  have nodeA := Topology.hasNode_relay loaded boundA
  have nodeB := Topology.hasNode_relay loaded boundB
  simp only [backboneInterfaces, List.mem_cons, List.not_mem_nil, or_false] at listed
  rcases listed with rfl | rfl
  · exact .between nodeA nodeB rfl
  · exact .between nodeB nodeA rfl

theorem within_attachmentInterface {a : AttachmentLink} (member : a ∈ p.attachments)
    {i : Interface} (listed : i ∈ attachmentInterfaces a) : i.Within t := by
  obtain ⟨bound, host, _⟩ := within.attachments a member
  have relay := Topology.hasNode_relay loaded bound
  simp only [attachmentInterfaces, List.mem_cons, List.not_mem_nil, or_false] at listed
  rcases listed with rfl | rfl
  · exact .between relay host rfl
  · exact .between host relay rfl

theorem within_controlInterface {i : Interface} (listed : i ∈ controlInterfaces p.control) :
    i.Within t := by
  have node : t.HasNode p.control.control := within.control ▸ Topology.hasNode_control loaded
  simp only [controlInterfaces, List.mem_append, List.mem_cons, List.not_mem_nil, or_false,
    List.mem_map] at listed
  rcases listed with (rfl | rfl) | ⟨⟨address, r⟩, place, rfl⟩
  · exact .alone node rfl
  · exact .alone node rfl
  · have bound := List.snd_lt_of_mem_zipIdx place
    rw [Nat.add_zero, within.segment] at bound
    exact .alone (Topology.hasNode_relay loaded bound) rfl

theorem within_interface {pairs : List (NodeId × NodeId)} {i : Interface}
    (member : i ∈ p.interfaces (some pairs)) : i.Within t := by
  simp only [interfaces, List.mem_append] at member
  rcases member with ((identity | backbone) | attachment) | control
  · obtain ⟨⟨sub, r⟩, place, rfl⟩ := List.mem_map.mp identity
    have bound := List.snd_lt_of_mem_zipIdx place
    rw [Nat.add_zero, within.identities] at bound
    exact .alone (Topology.hasNode_relay loaded bound) rfl
  · obtain ⟨l, chosen, listed⟩ := List.mem_flatMap.mp backbone
    exact within_backboneInterface loaded within (List.mem_filter.mp chosen).1 listed
  · obtain ⟨a, attached, listed⟩ := List.mem_flatMap.mp attachment
    exact within_attachmentInterface loaded within attached listed
  · exact within_controlInterface loaded within control

theorem hasNode_link {pairs : List (NodeId × NodeId)} {l : Link}
    (member : l ∈ NetworkPlan.linksOf t p pairs) : t.HasNode l.a ∧ t.HasNode l.b := by
  simp only [NetworkPlan.linksOf, List.mem_append, List.mem_map, List.mem_filterMap] at member
  rcases member with (⟨l, ⟨pair, _, found⟩, rfl⟩ | ⟨a, attached, rfl⟩) | control
  · obtain ⟨boundA, boundB⟩ := within.backbone l (backboneLink?_spec found).1
    exact ⟨Topology.hasNode_relay loaded boundA, Topology.hasNode_relay loaded boundB⟩
  · obtain ⟨bound, host, _⟩ := within.attachments a attached
    exact ⟨Topology.hasNode_relay loaded bound, host⟩
  · obtain ⟨r, relay, rfl⟩ := List.mem_map.mp control
    exact ⟨within.control ▸ Topology.hasNode_control loaded,
      Topology.hasNode_relay loaded (List.mem_range.mp relay)⟩

theorem hasNode_route {mode : MeshMode} {routes : List Route}
    (made : Routing.synthesize t p mode = .ok routes) {r : Route} (member : r ∈ routes) :
    t.HasNode r.onHost := by
  obtain ⟨relays, clients, forRelays, forClients, rfl⟩ := Routing.synthesize_spec made
  rcases List.mem_append.mp member with between | client
  · obtain ⟨source, target, next, journey, _, route⟩ :=
      Routing.meshRoutes_spec loaded forRelays between
    rw [(Routing.routeOver_spec route).1]
    exact Topology.hasNode_relay loaded (Routing.mem_relayJourneys.mp journey).1
  · obtain ⟨a, attached, host, _⟩ := Routing.clientRoutes_spec forClients client
    exact host ▸ (within.attachments a attached).2.1

theorem hasNode_process {settings : LaunchSettings} {plan : LaunchPlan}
    (built : LaunchPlan.build t p settings = .ok plan) {spec : ProcessSpec}
    (member : spec ∈ plan.processes) : t.HasNode spec.node := by
  obtain ⟨_, all, control, relays, clients⟩ := LaunchPlan.build_spec built
  have client : ∀ role : HopRole, spec ∈ plan.processesOf role.stage → t.HasNode spec.node := by
    intro role listed
    obtain ⟨a, attached, process⟩ := Checked.mem_of_mapM_ok (clients role) listed
    obtain ⟨_, _, node, _⟩ := LaunchPlan.clientProcess_spec process
    rw [node]
    exact Topology.hasNode_host loaded (List.mem_filter.mp attached).1
  rw [all] at member
  obtain ⟨kind, _, listed⟩ := List.mem_flatMap.mp member
  cases kind with
  | control =>
    rw [control, List.mem_singleton] at listed
    rw [listed]
    change t.HasNode p.control.control
    exact within.control ▸ Topology.hasNode_control loaded
  | relays =>
    obtain ⟨r, relay, process⟩ := Checked.mem_of_mapM_ok relays listed
    obtain ⟨_, _, node, _⟩ := LaunchPlan.relayProcess_spec process
    rw [node]
    exact Topology.hasNode_relay loaded (List.mem_range.mp relay)
  | publishers => exact client .firstHop listed
  | subscribers => exact client .lastHop listed

end Loaded

end AddressPlan

namespace NetworkPlan

structure Within (p : NetworkPlan) : Prop where
  links : ∀ l ∈ p.links, p.topology.HasNode l.a ∧ p.topology.HasNode l.b
  interfaces : ∀ i ∈ p.interfaces, i.Within p.topology
  routes : ∀ r ∈ p.routes, p.topology.HasNode r.onHost
  shaping : ∀ s ∈ p.shaping, p.topology.HasNode s.a ∧ p.topology.HasNode s.b
  processes : ∀ spec ∈ p.launch.processes, p.topology.HasNode spec.node

theorem within_of_compile {c : Configuration} {doc : Document} {p : NetworkPlan}
    (compiled : compile c doc = .ok p) : p.Within := by
  obtain ⟨loaded, allocated, routed, launched, ⟨delays, _, shaping⟩, links, interfaces, _⟩ :=
    compile_spec compiled
  have within := AddressPlan.within_of_build loaded (AddressSpace.allocate_spec.mp allocated).2
  constructor
  · rw [links]
    exact fun l member => AddressPlan.hasNode_link loaded within member
  · rw [interfaces]
    exact fun i member => AddressPlan.within_interface loaded within member
  · exact fun r member => AddressPlan.hasNode_route loaded within routed member
  · rw [shaping]
    intro s member
    obtain ⟨order, bound⟩ := Routing.links_of_load loaded (Delays.shaping_spec member).1
    exact ⟨Topology.hasNode_relay loaded (Nat.lt_trans order bound),
      Topology.hasNode_relay loaded bound⟩
  · exact fun spec member => AddressPlan.hasNode_process loaded within launched member

end NetworkPlan

end RelayMesh
