import RelayMesh.Proofs.Addressing.Completeness
import RelayMesh.Proofs.Addressing.Interfaces
import RelayMesh.Proofs.Topology.Nodes

namespace RelayMesh

def Interface.place (i : Interface) : NodeId × Network :=
  (i.host, i.network.truncated)

namespace AddressPlan

def roster (p : AddressPlan) : List (Subnet × List Interface) :=
  p.identities.zipIdx.map (fun (sub, i) => (sub, [⟨i, .identity, sub.network⟩]))
    ++ p.attachments.map (fun a => (a.subnet, attachmentInterfaces a))
    ++ p.backbone.map (fun l => (l.subnet, backboneInterfaces l))
    ++ [(p.control.uplink, (controlInterfaces p.control).take 1),
      (p.control.segment, (controlInterfaces p.control).drop 1)]

theorem roster_subnets (p : AddressPlan) : p.roster.map (·.1) = p.subnets := by
  have identities := List.zipIdx_map_fst 0 p.identities
  simp only [roster, subnets, List.map_append, List.map_map, Function.comp_def, List.map_cons,
    List.map_nil] at identities ⊢
  rw [identities]

theorem roster_interfaces (p : AddressPlan) : (p.roster.flatMap (·.2)).Perm (p.interfaces none) := by
  simp only [roster, interfaces, materialized, List.flatMap_append, List.flatMap_map,
    List.flatMap_cons, List.flatMap_nil, List.append_nil, List.take_append_drop,
    ← List.map_eq_flatMap]
  apply List.Perm.append_right
  rw [List.append_assoc, List.append_assoc]
  exact List.perm_append_comm.append_left _

theorem hosts_segment (c : ControlPlane) : ((controlInterfaces c).drop 1).map (·.host) =
    c.control :: List.range c.relayAddresses.length := by
  rw [List.range_eq_range', ← List.zipIdx_map_snd 0 c.relayAddresses]
  simp only [controlInterfaces, List.cons_append, List.nil_append, List.drop_succ_cons,
    List.drop_zero, List.map_cons, List.map_map]
  rfl

section Roles

variable {p : AddressPlan} {pairs : List (NodeId × NodeId)}

def identityInterfaces (p : AddressPlan) : List Interface :=
  p.identities.zipIdx.map fun (sub, i) => ⟨i, .identity, sub.network⟩

theorem interfaces_identity (p : AddressPlan) (pairs : List (NodeId × NodeId)) :
    (p.interfaces (some pairs)).filter (·.role == .identity) = p.identityInterfaces := by
  simp [identityInterfaces, interfaces, List.filter_flatMap, List.filter_map, Function.comp_def,
    backboneInterfaces, attachmentInterfaces, controlInterfaces]

theorem interfaces_segment (p : AddressPlan) (pairs : List (NodeId × NodeId)) :
    (p.interfaces (some pairs)).filter (·.role == .controlSegment) =
      (controlInterfaces p.control).drop 1 := by
  have other : (InterfaceRole.identity == .controlSegment) = false := rfl
  have none {α : Type} (xs : List α) : xs.flatMap (fun _ => ([] : List Interface)) = [] :=
    List.flatMap_eq_nil_iff.mpr fun _ _ => rfl
  simp [interfaces, List.filter_flatMap, List.filter_map, Function.comp_def, backboneInterfaces,
    attachmentInterfaces, controlInterfaces, other, none]

theorem filter_identity {relay : NodeId} {sub : Subnet} (entry : p.identities[relay]? = some sub) :
    (p.interfaces (some pairs)).filter (fun i => i.host == relay && i.role == .identity) =
      [⟨relay, .identity, sub.network⟩] := by
  have distinct : (p.identityInterfaces.map (·.host)).Nodup := by
    rw [identityInterfaces, List.map_map]
    change (p.identities.zipIdx.map Prod.snd).Nodup
    rw [List.zipIdx_map_snd]
    exact List.nodup_range'
  have member : ⟨relay, .identity, sub.network⟩ ∈ p.identityInterfaces :=
    List.mem_map.mpr ⟨(sub, relay), List.mk_mem_zipIdx_iff_getElem?.mpr entry, rfl⟩
  rw [← List.filter_filter, interfaces_identity]
  exact filter_eq_singleton Interface.host distinct member

end Roles

section Built

variable {s : AddressSpace} {t : Topology} {p : AddressPlan} (built : s.build t = .ok p)
include built

theorem backbone_place {l : BackboneLink} (member : l ∈ p.backbone) {i : Interface}
    (listed : i ∈ backboneInterfaces l) : i.network.truncated = l.subnet.network := by
  have grant : (l.subnet, [l.addressA, l.addressB]) ∈ p.grants := by
    simp only [grants, List.mem_append, List.mem_map]
    exact .inl (.inr ⟨l, member, rfl⟩)
  simp only [backboneInterfaces, List.mem_cons, List.not_mem_nil, or_false] at listed
  rcases listed with rfl | rfl
  · exact truncated_of_grant built grant List.mem_cons_self
  · exact truncated_of_grant built grant (List.mem_cons_of_mem _ List.mem_cons_self)

theorem attachment_place {a : AttachmentLink} (member : a ∈ p.attachments) {i : Interface}
    (listed : i ∈ attachmentInterfaces a) : i.network.truncated = a.subnet.network := by
  have grant : (a.subnet, [a.relayAddress, a.hostAddress]) ∈ p.grants := by
    simp only [grants, List.mem_append, List.mem_map]
    exact .inl (.inl (.inr ⟨a, member, rfl⟩))
  simp only [attachmentInterfaces, List.mem_cons, List.not_mem_nil, or_false] at listed
  rcases listed with rfl | rfl
  · exact truncated_of_grant built grant List.mem_cons_self
  · exact truncated_of_grant built grant (List.mem_cons_of_mem _ List.mem_cons_self)

theorem uplink_place {i : Interface} (listed : i ∈ (controlInterfaces p.control).take 1) :
    i.network.truncated = p.control.uplink.network := by
  have grant : (p.control.uplink, [p.control.uplinkAddress, p.control.uplinkPeerAddress]) ∈
      p.grants := by
    simp [grants]
  obtain rfl := List.mem_singleton.mp listed
  exact truncated_of_grant built grant List.mem_cons_self

theorem segment_place {i : Interface} (listed : i ∈ (controlInterfaces p.control).drop 1) :
    i.network.truncated = p.control.segment.network := by
  have grant : (p.control.segment, p.control.controlAddress :: p.control.relayAddresses) ∈
      p.grants := by
    simp [grants]
  rcases List.mem_cons.mp listed with rfl | listed
  · exact truncated_of_grant built grant List.mem_cons_self
  · obtain ⟨entry, place, rfl⟩ := List.mem_map.mp listed
    exact truncated_of_grant built grant
      (List.mem_cons_of_mem _ (List.fst_mem_of_mem_zipIdx place))

theorem identity_place {sub : Subnet} (member : sub ∈ p.identities) :
    sub.network.truncated = sub.network := by
  have grant : (sub, [sub.network.address]) ∈ p.grants := by
    simp only [grants, List.mem_append, List.mem_map]
    exact .inl (.inl (.inl ⟨sub, member, rfl⟩))
  exact truncated_of_grant built grant List.mem_cons_self

theorem roster_places {entry : Subnet × List Interface} (member : entry ∈ p.roster) {i : Interface}
    (listed : i ∈ entry.2) : i.network.truncated = entry.1.network := by
  simp only [roster, List.mem_append, List.mem_map, List.mem_cons, List.not_mem_nil,
    or_false] at member
  rcases member with ((⟨⟨sub, r⟩, identity, rfl⟩ | ⟨a, attached, rfl⟩) | ⟨l, linked, rfl⟩) | rfl | rfl
  · obtain rfl := List.mem_singleton.mp listed
    exact identity_place built (List.fst_mem_of_mem_zipIdx identity)
  · exact attachment_place built attached listed
  · exact backbone_place built linked listed
  · exact uplink_place built listed
  · exact segment_place built listed

section Loaded

variable {policy : DuplicateEdges} {doc : Document} (loaded : Topology.load policy doc = .ok t)
include loaded

theorem roster_hosts {entry : Subnet × List Interface} (member : entry ∈ p.roster) :
    (entry.2.map (·.host)).Nodup := by
  simp only [roster, List.mem_append, List.mem_map, List.mem_cons, List.not_mem_nil,
    or_false] at member
  rcases member with ((⟨sub, _, rfl⟩ | ⟨a, attached, rfl⟩) | ⟨l, linked, rfl⟩) | rfl | rfl
  · exact List.nodup_singleton _
  · obtain ⟨below, above⟩ := Topology.attachments_of_load loaded (attachment_of_build built attached)
    have different : a.relay ≠ a.host := Nat.ne_of_lt (Nat.lt_of_lt_of_le below above)
    simpa [attachmentInterfaces] using different
  · have different : l.a ≠ l.b := Nat.ne_of_lt (ends_of_build built linked).1
    simpa [backboneInterfaces] using different
  · exact List.nodup_singleton _
  · -- The control node is none of the relays, whose ids are below its own.
    rw [hosts_segment, control_of_build built, length_relayAddresses_of_build built,
      List.nodup_cons]
    refine ⟨?_, List.nodup_range⟩
    rw [List.mem_range, Topology.control_of_load loaded]
    exact Nat.not_lt_of_le (Nat.le_add_right _ _)

theorem filter_segment {pairs : List (NodeId × NodeId)} {i : Interface}
    (listed : i ∈ (controlInterfaces p.control).drop 1) :
    (p.interfaces (some pairs)).filter (fun j => j.host == i.host && j.role == .controlSegment) =
      [i] := by
  have entry : (p.control.segment, (controlInterfaces p.control).drop 1) ∈ p.roster := by
    simp [roster]
  rw [← List.filter_filter, interfaces_segment]
  exact filter_eq_singleton (·.host) (roster_hosts built loaded entry) listed

theorem nodup_networks (accepted : s.check = .ok ()) : (p.subnets.map (·.network)).Nodup := by
  have apart := disjoint_of_build accepted
    (fun a member => (Topology.attachments_of_load loaded member).1) built
  refine List.pairwise_map.mpr (apart.imp fun {x y} disjoint same => ?_)
  have held := Network.holds_address x.network
  exact disjoint _ held (same ▸ held)

theorem nodup_places (accepted : s.check = .ok ()) :
    ((p.interfaces none).map Interface.place).Nodup := by
  rw [← (p.roster_interfaces.map Interface.place).nodup_iff, List.map_flatMap, List.nodup_flatMap]
  constructor
  · intro entry member
    apply List.Nodup.of_map Prod.fst
    rw [List.map_map]
    exact roster_hosts built loaded member
  · have networks := nodup_networks built loaded accepted
    rw [← roster_subnets, List.map_map] at networks
    refine (List.pairwise_map.mp networks).imp_of_mem fun {x y} hx hy different => ?_
    intro place first second
    obtain ⟨i, listedX, rfl⟩ := List.mem_map.mp first
    obtain ⟨j, listedY, same⟩ := List.mem_map.mp second
    have network : j.network.truncated = i.network.truncated := congrArg Prod.snd same
    rw [roster_places built hx listedX, roster_places built hy listedY] at network
    exact different network.symm

theorem filter_place_eq (accepted : s.check = .ok ()) {pairs : List (NodeId × NodeId)}
    {i : Interface} (member : i ∈ p.interfaces (some pairs)) :
    (p.interfaces (some pairs)).filter (fun j => j.place == i.place) = [i] := by
  have places := (p.interfaces_sublist pairs).map Interface.place
  exact filter_eq_singleton Interface.place
    (places.nodup (nodup_places built loaded accepted)) member

end Loaded

end Built

end AddressPlan

end RelayMesh
