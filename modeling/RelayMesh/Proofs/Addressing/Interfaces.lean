import Mathlib.Data.List.Flatten
import RelayMesh.Proofs.Addressing.Ownership

namespace RelayMesh.AddressPlan

variable {p : AddressPlan} {pairs : List (NodeId × NodeId)}

theorem interfaces_sublist (p : AddressPlan) (pairs : List (NodeId × NodeId)) :
    (p.interfaces (some pairs)).Sublist (p.interfaces none) := by
  have backbone : ((p.materialized (some pairs)).flatMap backboneInterfaces).Sublist
      ((p.materialized none).flatMap backboneInterfaces) :=
    List.Sublist.flatMap List.filter_sublist backboneInterfaces
  exact (((List.Sublist.refl _).append backbone).append (List.Sublist.refl _)).append
    (List.Sublist.refl _)

theorem only_interface (distinct : p.addresses.Nodup) {i : Interface}
    (member : i ∈ p.interfaces (some pairs)) :
    (p.interfaces (some pairs)).filter (fun j => j.network.address == i.network.address) = [i] := by
  have addresses := (p.interfaces_sublist pairs).map (fun j : Interface => j.network.address)
  exact filter_eq_singleton (fun j : Interface => j.network.address)
    (addresses.nodup (nodup_interface_addresses distinct)) member

theorem identity_interface {relay : NodeId} {a : Address} (found : p.identity? relay = some a) :
    ∃ i ∈ p.interfaces (some pairs), i.host = relay ∧ i.role = .identity ∧
      i.network.address = a := by
  obtain ⟨sub, entry, rfl⟩ := Option.map_eq_some_iff.mp found
  refine ⟨⟨relay, .identity, sub.network⟩, ?_, rfl, rfl, rfl⟩
  have place : (sub, relay) ∈ p.identities.zipIdx := List.mk_mem_zipIdx_iff_getElem?.mpr entry
  simp only [interfaces, List.mem_append, List.append_assoc]
  exact .inl (List.mem_map.mpr ⟨(sub, relay), place, rfl⟩)

theorem backbone_listed {l : BackboneLink} (chosen : l ∈ p.materialized (some pairs))
    {i : Interface} (listed : i ∈ backboneInterfaces l) : i ∈ p.interfaces (some pairs) := by
  simp only [interfaces, List.mem_append, List.append_assoc]
  exact .inr (.inl (List.mem_flatMap.mpr ⟨l, chosen, listed⟩))

theorem backbone_interface {l : BackboneLink} {node : NodeId} {a : Address}
    (own : l.addressOf? node = some a) :
    ∃ i ∈ backboneInterfaces l, i.host = node ∧ i.network.address = a := by
  rcases BackboneLink.addressOf?_spec own with same | same
  · obtain ⟨rfl, rfl⟩ := Prod.mk.inj same
    exact ⟨_, List.mem_cons_self, rfl, rfl⟩
  · obtain ⟨rfl, rfl⟩ := Prod.mk.inj same
    exact ⟨_, List.mem_cons_of_mem _ List.mem_cons_self, rfl, rfl⟩

theorem attachment_listed {a : AttachmentLink} (member : a ∈ p.attachments) {i : Interface}
    (listed : i ∈ attachmentInterfaces a) : i ∈ p.interfaces (some pairs) := by
  simp only [interfaces, List.mem_append, List.append_assoc]
  exact .inr (.inr (.inl (List.mem_flatMap.mpr ⟨a, member, listed⟩)))

theorem segment_listed {i : Interface} (listed : i ∈ (controlInterfaces p.control).drop 1) :
    i ∈ p.interfaces (some pairs) := by
  simp only [interfaces, List.mem_append, List.append_assoc]
  exact .inr (.inr (.inr (List.mem_of_mem_drop listed)))

theorem truncated_of_grant {s : AddressSpace} {t : Topology} (built : s.build t = .ok p)
    {g : Subnet × List Address} (member : g ∈ p.grants) {a : Address} (granted : a ∈ g.2) :
    (g.1.network.withAddress a).truncated = g.1.network := by
  have subnet : g.1 ∈ p.subnets := by
    rw [← grants_subnets]
    exact List.mem_map_of_mem member
  exact Network.truncated_withAddress
    (AddressSpace.address_eq_base_of_drawn (drawn_of_build built subnet))
    ((hosts_of_build built member).2 a granted).1

end RelayMesh.AddressPlan
