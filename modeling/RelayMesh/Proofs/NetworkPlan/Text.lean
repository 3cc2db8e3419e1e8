import RelayMesh.Proofs.NetworkPlan.Form
import RelayMesh.Proofs.NetworkPlan.Nodes
import RelayMesh.Proofs.NetworkPlan.Shaping

namespace RelayMesh

open Form (write)

theorem Topology.writable_of_load {policy : DuplicateEdges} {doc : Document} {t : Topology}
    (loaded : load policy doc = .ok t) (small : t.nodes.length < UInt64.size) :
    (write t).Writable := by
  have fits {id : NodeId} (node : t.HasNode id) : id < UInt64.size := Nat.lt_trans node small
  have relays : t.numRelays ≤ t.control := control_of_load loaded ▸ Nat.le_add_right _ _
  have control := fits (hasNode_control loaded)
  simp only [writable_topology, writable_list_write, writable_node, writable_edge,
    writable_attachment]
  refine ⟨fun node member => fits (hasNode_id loaded member), Nat.lt_of_le_of_lt relays control,
    fun e member => ?_, fun a member => ?_, control⟩
  · obtain ⟨boundA, boundB, _⟩ := edges_of_load loaded member
    exact ⟨fits (hasNode_relay loaded boundA), fits (hasNode_relay loaded boundB),
      fun x own => (isDelay_spec (isDelay_of_load loaded member own)).1⟩
  · have bound := (attachments_of_load loaded member).1
    exact ⟨fits (hasNode_relay loaded bound), fits (hasNode_host loaded member)⟩

namespace AddressPlan

variable {policy : DuplicateEdges} {doc : Document} {s : AddressSpace} {t : Topology}
  {p : AddressPlan} (loaded : Topology.load policy doc = .ok t) (built : s.build t = .ok p)

include loaded built in
theorem length_nodes_lt : t.nodes.length < UInt64.size := by
  have words : UInt64.size = 18446744073709551616 ∧ UInt32.size = 4294967296 := ⟨rfl, rfl⟩
  have room := AddressSpace.checkCapacity_ok.mp (AddressSpace.build_spec built).1
  have relays := room.relays.trans (s.capacity_le _)
  have attachments := room.attachments.trans (s.capacity_le _)
  have control := Topology.control_of_load loaded
  rw [Topology.length_nodes_of_load loaded, control]
  omega

include built in
theorem index_lt_of_build {sub : Subnet} (member : sub ∈ p.subnets) : sub.index < UInt64.size :=
  (Nat.lt_of_lt_of_le (AddressSpace.index_lt_of_drawn (drawn_of_build built member))
    (s.capacity_le _)).trans (by decide)

include loaded built in
theorem writable_of_build : (write p).Writable := by
  have small := length_nodes_lt loaded built
  have within := within_of_build loaded built
  have fits {id : NodeId} (node : t.HasNode id) : id < UInt64.size := Nat.lt_trans node small
  have relay {r : NodeId} (inside : r < t.numRelays) := fits (Topology.hasNode_relay loaded inside)
  have control := fits (Topology.hasNode_control loaded)
  have index (sub : Subnet) (member : sub ∈ p.subnets) := index_lt_of_build built member
  simp only [subnets, List.forall_mem_append, List.forall_mem_map, List.forall_mem_cons] at index
  obtain ⟨⟨⟨identities, attachments⟩, backbone⟩, uplink, segment, -⟩ := index
  simp only [writable_addressPlan, writable_list_write, writable_subnet, writable_attachmentLink,
    writable_backboneLink, writable_controlPlane]
  refine ⟨identities, fun a member => ?_, fun l member => ?_, ?_, uplink, segment⟩
  · obtain ⟨bound, host, place⟩ := within.attachments a member
    have count : t.attachments.length ≤ t.control :=
      Topology.control_of_load loaded ▸ Nat.le_add_left _ _
    exact ⟨Nat.lt_trans place (Nat.lt_of_le_of_lt count control), relay bound, fits host,
      attachments a member⟩
  · obtain ⟨boundA, boundB⟩ := within.backbone l member
    exact ⟨relay boundA, relay boundB, backbone l member⟩
  · exact within.control ▸ control

end AddressPlan

namespace NetworkPlan

variable {c : Configuration} {doc : Document} {p : NetworkPlan}

section Compiled

variable (fallback : ∀ x ∈ c.defaultDelay, x.isFinite = true)
  (overrides : ∀ o ∈ c.delayOverrides, o.delay.isFinite = true)
  (compiled : compile c doc = .ok p)
include fallback overrides compiled

theorem finite_of_compile {s : LinkShaping} (member : s ∈ p.shaping) : s.delay.isFinite = true := by
  obtain ⟨_, found⟩ := (mem_shaping_of_compile compiled).mp member
  rcases Configuration.delayOf?_eq_some_iff.mp found with supplied | ⟨_, own⟩
  · rcases supplied.configured with given | ⟨o, listed, same⟩
    · exact fallback s.delay given
    · exact same ▸ overrides o listed
  · obtain ⟨loaded, _⟩ := build_of_compile compiled
    exact (Topology.isDelay_spec (Topology.isDelay_of_delayFor loaded own)).1

theorem writable_of_compile : (write p).Writable := by
  have finite {s : LinkShaping} (member : s ∈ p.shaping) :=
    finite_of_compile fallback overrides compiled member
  have within := within_of_compile compiled
  obtain ⟨loaded, _, built⟩ := build_of_compile compiled
  have small := AddressPlan.length_nodes_lt loaded built
  have fits {id : NodeId} (node : p.topology.HasNode id) : id < UInt64.size :=
    Nat.lt_trans node small
  simp only [writable_networkPlan, writable_list_write, writable_link, writable_interface,
    writable_route, writable_linkShaping, writable_launchPlan, writable_launchStage,
    writable_processSpec]
  refine ⟨Topology.writable_of_load loaded small, AddressPlan.writable_of_build loaded built,
    fun l member => ?_, fun i member => ?_, fun r member => fits (within.routes r member),
    fun s member => ?_, fun stage member spec listed => ?_⟩
  · exact (within.links l member).imp fits fits
  · have inside := within.interfaces i member
    exact ⟨fits inside.host, fun peer named => fits (inside.peer peer named)⟩
  · obtain ⟨nodeA, nodeB⟩ := within.shaping s member
    exact ⟨fits nodeA, fits nodeB, finite member⟩
  · exact fits (within.processes spec (List.mem_flatMap.mpr ⟨stage, member, listed⟩))

/-- The text of a compiled plan denotes that plan, and what was read has the same text. -/
theorem reads_back_of_compile : ∃ q, ofText? p.text = some q ∧ q = p ∧ q.text = p.text :=
  ⟨p, ofText?_text (writable_of_compile fallback overrides compiled), rfl, rfl⟩

end Compiled

def quotedDocument : Document :=
  .object [("nodes", .list [.text "a\n\"b\"", .text "é"]),
    ("edges", .list [.object [("node1", .int 1), ("node2", .int 2),
      ("delay", .float ⟨0x4004000000000000⟩)]]),
    ("first_hop_relay", .list [.object [("track", .text "\x01"), ("relay", .int 1)]]),
    ("last_hop_relay", .list [.object [("track", .text "\x01"), ("relay", .int 2)]])]

def quotedConfiguration : Configuration where
  defaultDelay := some ⟨0x3FB999999999999A⟩
  delayOverrides := [⟨"é", "a\n\"b\"", ⟨0x7FEFFFFFFFFFFFFF⟩⟩]

def quoted : NetworkPlan :=
  (compile quotedConfiguration quotedDocument).toOption.getD default

theorem reads_back_quoted :
    compile quotedConfiguration quotedDocument = .ok quoted ∧
      ∃ q, ofText? quoted.text = some q ∧ q = quoted ∧ q.text = quoted.text :=
  have compiled : compile quotedConfiguration quotedDocument = .ok quoted := rfl
  ⟨compiled, reads_back_of_compile (by decide) (by decide) compiled⟩

end NetworkPlan

end RelayMesh
