import RelayMesh.Proofs.Launch.Stages
import RelayMesh.Proofs.Network.Form
import RelayMesh.Proofs.NetworkPlan.Wiring
import RelayMesh.Proofs.Topology.Kinds

namespace RelayMesh

def StageKind.node : StageKind → NodeKind
  | .control => .control
  | .relays => .relay
  | .publishers => .publisher
  | .subscribers => .subscriber

namespace NetworkPlan

open LaunchPlan (apiUrl relayUrl)

def interfacesFor (p : NetworkPlan) (host : NodeId) (role : InterfaceRole) : List Interface :=
  p.interfaces.filter fun i => i.host == host && i.role == role

def locator (i : Interface) : String :=
  s!"http://{i.network.address}"

/-- A relay listens at its identity, which its certificate covers, and asks the control node, with
which it shares the segment. -/
structure RelayFits (p : NetworkPlan) (control : Interface) (spec : ProcessSpec) : Prop where
  listens : ∃ identity socket text, p.interfacesFor spec.node .identity = [identity] ∧
    socket.address = identity.network.address ∧ socket.address ∈ p.certificateHosts ∧
    optionValue? "--bind" spec.args = some text ∧ SocketAddress.read? text = some socket ∧
    spec.probe = .relayListening socket
  asks : optionValue? "--api" spec.args = some (locator control)
  segment : ∃ own, p.interfacesFor spec.node .controlSegment = [own] ∧
    own.network.truncated = control.network.truncated

/-- A client is given the locator under which the process of its relay is known. A publisher is
ready when the control node knows its track at the identity of this relay. -/
structure ClientFits (p : NetworkPlan) (control : Interface) (a : Attachment) (spec : ProcessSpec) :
    Prop where
  node : spec.node = a.host
  connects : ∃ relay url flags, p.launch.processes.filter (·.node == a.relay) = [relay] ∧
    optionValue? "--node" relay.args = some url ∧ spec.args = "--name" :: a.track :: url :: flags ∧
    flags.Sublist ["--tls-disable-verify"]
  announced : a.role = .firstHop → ∃ identity, p.interfacesFor a.relay .identity = [identity] ∧
    spec.probe =
      .trackAnnounced (locator control) identity.network.address.lastOctet a.track

/-- Each node has one process, on the host with its name, and the stages hold the nodes of their
kinds in order: the relays by their ids, and the clients as the document lists their hops. -/
structure Staffed (doc : Document) (p : NetworkPlan) (control : Interface) : Prop where
  stages : p.launch.stages.map (·.kind) = [.control, .relays, .publishers, .subscribers]
  hosts : ∀ kind, (p.launch.processesOf kind).map (fun spec => (spec.node, spec.host)) =
    (p.topology.nodes.filter (·.kind == kind.node)).map fun node => (node.id, node.name)
  single : ∀ node ∈ p.topology.nodes, ∃ spec,
    p.launch.processes.filter (·.node == node.id) = [spec] ∧ spec.host = node.name
  only_control : p.interfacesFor p.topology.control .controlSegment = [control]
  answers : ∀ spec ∈ p.launch.processesOf .control,
    spec.args = [] ∧ spec.probe = .apiReachable (locator control)
  ascending : (p.launch.processesOf .relays).map (·.node) = List.range p.topology.numRelays
  relays : ∀ spec ∈ p.launch.processesOf .relays, p.RelayFits control spec
  clients : ∃ fields, doc = .object fields ∧ ∀ role, ∃ items,
    Topology.HasItems fields (Topology.hopField role) items ∧
      List.Forall₂ (fun item spec => ∃ a ∈ p.topology.attachmentsWith role,
          Topology.DescribesHop (p.topology.relays.map (·.name)) item (a.track, a.relay) ∧
            p.ClientFits control a spec)
        items (p.launch.processesOf role.stage)

section Compiled

variable {c : Configuration} {doc : Document} {p : NetworkPlan} (compiled : compile c doc = .ok p)
include compiled

theorem launch_of_compile : LaunchPlan.build p.topology p.addresses c.launch = .ok p.launch := by
  obtain ⟨_, _, _, launched, _⟩ := compile_spec compiled
  exact launched

theorem nodes_of_stage (kind : StageKind) :
    (p.launch.processesOf kind).map (·.node) = p.topology.kindIds kind.node := by
  obtain ⟨loaded, _, built⟩ := build_of_compile compiled
  obtain ⟨_, _, control, relays, clients⟩ := LaunchPlan.build_spec (launch_of_compile compiled)
  have client : ∀ role : HopRole, (p.launch.processesOf role.stage).map (·.node) =
      p.topology.kindIds (Topology.clientKind role) := by
    intro role
    rw [Topology.kindIds_client loaded]
    refine Checked.map_of_mapM_ok (clients role) _ _ fun a spec made => ?_
    obtain ⟨_, _, node, _⟩ := LaunchPlan.clientProcess_spec made
    exact node
  cases kind with
  | control =>
    rw [control, StageKind.node, Topology.kindIds_control loaded,
      ← AddressPlan.control_of_build built]
    rfl
  | relays =>
    rw [StageKind.node, Topology.kindIds_relay loaded]
    refine (Checked.map_of_mapM_ok relays _ id fun relay spec made => ?_).trans (List.map_id _)
    obtain ⟨_, _, node, _⟩ := LaunchPlan.relayProcess_spec made
    exact node
  | publishers => exact client .firstHop
  | subscribers => exact client .lastHop

theorem hosts_of_stage (kind : StageKind) :
    (p.launch.processesOf kind).map (fun spec => (spec.node, spec.host)) =
      (p.topology.nodes.filter (·.kind == kind.node)).map fun node => (node.id, node.name) := by
  obtain ⟨loaded, _⟩ := build_of_compile compiled
  have named := congrArg (List.map fun id => (id, p.topology.name id))
    (nodes_of_stage compiled kind)
  rw [Topology.kindIds, List.map_map, List.map_map] at named
  calc (p.launch.processesOf kind).map (fun spec => (spec.node, spec.host))
      = (p.launch.processesOf kind).map (fun spec => (spec.node, p.topology.name spec.node)) :=
        List.map_congr_left fun spec member => by
          rw [LaunchPlan.host_of_build (launch_of_compile compiled) member]
    _ = (p.topology.nodes.filter (·.kind == kind.node)).map
          (fun node => (node.id, p.topology.name node.id)) := named
    _ = _ := List.map_congr_left fun node member => by
          rw [Topology.name_of_load loaded (List.mem_filter.mp member).1]

theorem perm_hosts : (p.launch.processes.map fun spec => (spec.node, spec.host)).Perm
    (p.topology.nodes.map fun node => (node.id, node.name)) := by
  obtain ⟨_, all, _⟩ := LaunchPlan.build_spec (launch_of_compile compiled)
  have grouped := perm_grouped (·.kind)
    [NodeKind.control, .relay, .publisher, .subscriber] (by decide) p.topology.nodes (by
      intro node _
      cases node.kind <;> decide)
  have listed := grouped.map fun node => (node.id, node.name)
  rw [List.map_flatMap] at listed
  rw [all, List.map_flatMap]
  simp only [hosts_of_stage compiled]
  exact listed

theorem single_process {id : NodeId} (inside : p.topology.HasNode id) : ∃ spec,
    p.launch.processes.filter (·.node == id) = [spec] ∧ spec.host = p.topology.name id := by
  obtain ⟨loaded, _⟩ := build_of_compile compiled
  obtain ⟨node, member, rfl⟩ := Topology.exists_node loaded inside
  have distinct : (p.launch.processes.map (·.node)).Nodup := by
    have ids := (perm_hosts compiled).map Prod.fst
    rw [List.map_map, List.map_map] at ids
    refine ids.nodup_iff.mpr ?_
    change (p.topology.nodes.map (·.id)).Nodup
    rw [Topology.map_ids_of_load loaded]
    exact List.nodup_range
  have listed := (perm_hosts compiled).mem_iff.mpr (List.mem_map_of_mem member)
  obtain ⟨spec, started, same⟩ := List.mem_map.mp listed
  obtain ⟨own, host⟩ := Prod.mk.inj same
  refine ⟨spec, ?_, ?_⟩
  · rw [← own]
    exact filter_eq_singleton (·.node) distinct started
  · rw [host, Topology.name_of_load loaded member]

theorem identity_of_relay {relay : NodeId} {a : Address}
    (known : p.addresses.identity? relay = some a) :
    ∃ identity, p.interfacesFor relay .identity = [identity] ∧ identity.network.address = a := by
  obtain ⟨sub, entry, rfl⟩ := Option.map_eq_some_iff.mp known
  refine ⟨⟨relay, .identity, sub.network⟩, ?_, rfl⟩
  rw [interfacesFor, interfaces_of_compile compiled]
  exact AddressPlan.filter_identity entry

theorem only_on_segment {i : Interface}
    (listed : i ∈ (AddressPlan.controlInterfaces p.addresses.control).drop 1) :
    p.interfacesFor i.host .controlSegment = [i] ∧
      i.network.truncated = p.addresses.control.segment.network := by
  obtain ⟨loaded, _, built⟩ := build_of_compile compiled
  refine ⟨?_, AddressPlan.segment_place built listed⟩
  rw [interfacesFor, interfaces_of_compile compiled]
  exact AddressPlan.filter_segment built loaded listed

theorem control_on_segment : ∃ control,
    p.interfacesFor p.topology.control .controlSegment = [control] ∧
      control.network.truncated = p.addresses.control.segment.network ∧
      apiUrl p.addresses = locator control := by
  obtain ⟨_, _, built⟩ := build_of_compile compiled
  obtain ⟨single, network⟩ := only_on_segment compiled
    (i := ⟨p.addresses.control.control, .controlSegment,
      p.addresses.control.segment.network.withAddress p.addresses.control.controlAddress⟩)
    List.mem_cons_self
  rw [AddressPlan.control_of_build built] at single
  exact ⟨_, single, network, rfl⟩

theorem relay_on_segment {relay : NodeId} (inside : relay < p.topology.numRelays) : ∃ own,
    p.interfacesFor relay .controlSegment = [own] ∧
      own.network.truncated = p.addresses.control.segment.network := by
  obtain ⟨_, _, built⟩ := build_of_compile compiled
  have listed : relay ∈
      ((AddressPlan.controlInterfaces p.addresses.control).drop 1).map (·.host) := by
    rw [AddressPlan.hosts_segment, AddressPlan.length_relayAddresses_of_build built]
    exact List.mem_cons_of_mem _ (List.mem_range.mpr inside)
  obtain ⟨own, member, rfl⟩ := List.mem_map.mp listed
  exact ⟨own, only_on_segment compiled member⟩

section Control

variable {control : Interface}
  (network : control.network.truncated = p.addresses.control.segment.network)
  (url : apiUrl p.addresses = locator control)
include network url

theorem relay_fits {spec : ProcessSpec} (member : spec ∈ p.launch.processesOf .relays) :
    p.RelayFits control spec := by
  obtain ⟨_, _, _, relays, _⟩ := LaunchPlan.build_spec (launch_of_compile compiled)
  obtain ⟨relay, listed, made⟩ := Checked.mem_of_mapM_ok relays member
  obtain ⟨address, known, rfl, _, bind, api, _, probe⟩ := LaunchPlan.relayProcess_spec made
  obtain ⟨identity, single, same⟩ := identity_of_relay compiled known
  obtain ⟨own, onSegment, shared⟩ := relay_on_segment compiled (List.mem_range.mp listed)
  have certified : address ∈ p.certificateHosts := by
    obtain ⟨sub, entry, rfl⟩ := Option.map_eq_some_iff.mp known
    exact List.mem_map_of_mem (List.mem_of_getElem? entry)
  constructor
  · exact ⟨identity, ⟨address, c.launch.relayPort⟩, _, single, same.symm, certified, bind,
      SocketAddress.read?_toString _, probe⟩
  · rw [api, url]
  · exact ⟨own, onSegment, shared.trans network.symm⟩

omit network in
theorem client_fits {role : HopRole} {a : Attachment} (attached : a ∈ p.topology.attachmentsWith role)
    {spec : ProcessSpec}
    (made : LaunchPlan.clientProcess p.topology p.addresses c.launch a = .ok spec) :
    p.ClientFits control a spec := by
  obtain ⟨loaded, _⟩ := build_of_compile compiled
  obtain ⟨_, all, _, relays, _⟩ := LaunchPlan.build_spec (launch_of_compile compiled)
  obtain ⟨address, known, node, _, args, probe⟩ := LaunchPlan.clientProcess_spec made
  have inside := (Topology.attachments_of_load loaded (List.mem_filter.mp attached).1).1
  constructor
  · exact node
  · obtain ⟨relay, started, process⟩ := Checked.exists_of_mapM_ok relays (List.mem_range.mpr inside)
    obtain ⟨same, identity, own, _, _, _, option, _⟩ := LaunchPlan.relayProcess_spec process
    obtain rfl := Option.some.inj (identity.symm.trans known)
    obtain ⟨only, single, _⟩ := single_process compiled (Topology.hasNode_relay loaded inside)
    have listed : relay ∈ p.launch.processes.filter (·.node == a.relay) := by
      refine List.mem_filter.mpr ⟨?_, beq_iff_eq.mpr own⟩
      rw [all]
      exact List.mem_flatMap.mpr ⟨.relays, by decide, started⟩
    rw [single, List.mem_singleton] at listed
    exact ⟨relay, _, _, listed ▸ single, option, args, LaunchPlan.tlsFlags_sublist c.launch⟩
  · intro first
    obtain ⟨identity, single, same⟩ := identity_of_relay compiled known
    refine ⟨identity, single, ?_⟩
    rw [probe, LaunchPlan.clientProbe, first, url, same]

end Control

/-- The launch plan fits the network, for the control node at its address on the segment. -/
theorem staffed_of_compile : ∃ control, Staffed doc p control := by
  obtain ⟨loaded, _⟩ := build_of_compile compiled
  obtain ⟨stages, _, controlProcess, _, clients⟩ :=
    LaunchPlan.build_spec (launch_of_compile compiled)
  obtain ⟨control, single, network, url⟩ := control_on_segment compiled
  refine ⟨control, ?_⟩
  constructor
  · exact stages
  · exact fun kind => hosts_of_stage compiled kind
  · intro node member
    obtain ⟨spec, only, host⟩ := single_process compiled (Topology.hasNode_id loaded member)
    exact ⟨spec, only, host.trans (Topology.name_of_load loaded member)⟩
  · exact single
  · intro spec member
    rw [controlProcess, List.mem_singleton] at member
    rw [member, ← url]
    exact ⟨rfl, rfl⟩
  · rw [nodes_of_stage compiled, StageKind.node, Topology.kindIds_relay loaded]
  · exact fun spec member => relay_fits compiled network url member
  · obtain ⟨fields, object, hops⟩ := Topology.hops_of_load loaded
    refine ⟨fields, object, fun role => ?_⟩
    obtain ⟨items, listed, each⟩ := hops role
    refine ⟨items, listed, (Checked.forall₂_comp each (Checked.mapM_ok.mp (clients role))).imp ?_⟩
    rintro item spec ⟨a, attached, described, made⟩
    exact ⟨a, attached, described, client_fits compiled url attached made⟩

end Compiled

theorem declaredSquare_staffed :
    compile { addressing := AddressPlan.narrowSpace, mesh := .declared } Topology.squareDocument =
        .ok declaredSquare ∧
      declaredSquare.launch.processes.map (·.host) = ["api", "a", "b", "c", "d", "pub1", "sub1"] ∧
      ∃ control, Staffed Topology.squareDocument declaredSquare control :=
  have compiled : compile { addressing := AddressPlan.narrowSpace, mesh := .declared }
      Topology.squareDocument = .ok declaredSquare := by cbv
  ⟨compiled, by cbv, staffed_of_compile compiled⟩

end NetworkPlan

end RelayMesh
