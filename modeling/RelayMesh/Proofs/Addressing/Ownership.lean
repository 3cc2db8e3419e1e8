import RelayMesh.Proofs.Addressing.Separation
import RelayMesh.Proofs.Keyed

namespace RelayMesh

namespace BackboneLink

theorem addressOf?_of_pair {l : BackboneLink} {x y : NodeId} (ends : l.pair = orderedPair x y) :
    ∃ a, l.addressOf? x = some a := by
  unfold addressOf?
  rcases orderedPair_eq x y with order | order
  · have lower : l.a = x := congrArg Prod.fst (ends.trans order)
    exact ⟨l.addressA, if_pos lower.symm⟩
  · have upper : l.b = x := congrArg Prod.snd (ends.trans order)
    by_cases lower : x = l.a
    · exact ⟨l.addressA, if_pos lower⟩
    · exact ⟨l.addressB, by rw [if_neg lower, if_pos upper.symm]⟩

theorem addressOf?_spec {l : BackboneLink} {node : NodeId} {a : Address}
    (own : l.addressOf? node = some a) :
    (a, node) = (l.addressA, l.a) ∨ (a, node) = (l.addressB, l.b) := by
  unfold addressOf? at own
  split at own
  · rename_i lower
    exact .inl (Prod.ext (Option.some.inj own).symm lower)
  · split at own
    · rename_i upper
      exact .inr (Prod.ext (Option.some.inj own).symm upper)
    · contradiction

end BackboneLink

namespace AddressPlan

/-- The ends of all backbone links: an address and the relay that has it. -/
def backboneEnds (p : AddressPlan) : List (Address × NodeId) :=
  p.backbone.flatMap fun l => [(l.addressA, l.a), (l.addressB, l.b)]

def backboneOwners (p : AddressPlan) (a : Address) : List NodeId :=
  (p.backboneEnds.filter fun e => e.1 == a).map (·.2)

theorem backboneLink?_spec {p : AddressPlan} {x y : NodeId} {l : BackboneLink}
    (found : p.backboneLink? x y = some l) : l ∈ p.backbone ∧ l.pair = orderedPair x y := by
  have hit := List.find?_some found
  simp only [Bool.and_eq_true, beq_iff_eq] at hit
  exact ⟨List.mem_of_find?_eq_some found, Prod.ext hit.1 hit.2⟩

theorem mem_backboneEnds {p : AddressPlan} {l : BackboneLink} (member : l ∈ p.backbone)
    {node : NodeId} {a : Address} (own : l.addressOf? node = some a) :
    (a, node) ∈ p.backboneEnds := by
  refine List.mem_flatMap.mpr ⟨l, member, ?_⟩
  rcases BackboneLink.addressOf?_spec own with same | same
  · exact same ▸ List.mem_cons_self
  · exact same ▸ List.mem_cons_of_mem _ List.mem_cons_self

theorem map_interface_addresses (p : AddressPlan) :
    (p.interfaces none).map (·.network.address) =
      p.identityAddresses ++ (p.backboneEnds.map (·.1) ++
        ((p.attachments.flatMap attachmentInterfaces).map (·.network.address) ++
          (controlInterfaces p.control).map (·.network.address))) := by
  simp only [interfaces, materialized, List.map_append, List.map_map, List.append_assoc,
    identityAddresses]
  congr 1
  · rw [Function.comp_def, addresses_identities, List.map_eq_flatMap]
  · congr 1
    simp only [backboneEnds, List.map_flatMap, backboneInterfaces, Network.withAddress,
      List.map_cons, List.map_nil]

section Distinct

variable {p : AddressPlan} (distinct : p.addresses.Nodup)
include distinct

theorem nodup_interface_addresses : ((p.interfaces none).map (·.network.address)).Nodup :=
  (List.nodup_append.mp distinct).1

theorem nodup_identityAddresses : p.identityAddresses.Nodup := by
  have all := nodup_interface_addresses distinct
  rw [map_interface_addresses] at all
  exact (List.nodup_append.mp all).1

theorem nodup_backboneEnds : (p.backboneEnds.map (·.1)).Nodup := by
  have all := nodup_interface_addresses distinct
  rw [map_interface_addresses] at all
  exact (List.nodup_append.mp (List.nodup_append.mp all).2.1).1

theorem idxOf_identity {relay : NodeId} {a : Address} (found : p.identity? relay = some a) :
    p.identityAddresses.idxOf a = relay := by
  have entry : p.identityAddresses[relay]? = some a := by
    rw [identityAddresses, List.getElem?_map]
    exact found
  obtain ⟨inside, rfl⟩ := List.getElem?_eq_some_iff.mp entry
  exact (nodup_identityAddresses distinct).idxOf_getElem relay inside

theorem backboneOwners_eq {l : BackboneLink} (member : l ∈ p.backbone) {node : NodeId}
    {a : Address} (own : l.addressOf? node = some a) : p.backboneOwners a = [node] := by
  have single := filter_eq_singleton Prod.fst (nodup_backboneEnds distinct)
    (mem_backboneEnds member own)
  rw [backboneOwners, single]
  rfl

end Distinct

theorem origin_of_build {s : AddressSpace} {t : Topology} {p : AddressPlan}
    (built : s.build t = .ok p) {a : AttachmentLink} (member : a ∈ p.attachments) :
    a.origin ∈ t.attachments.zipIdx := by
  obtain ⟨_, _, attachments, _⟩ := AddressSpace.build_spec built
  have origin : a.origin ∈ AddressSpace.attachmentOrder t := by
    rw [← (AddressSpace.attachments_spec attachments).1]
    exact List.mem_map_of_mem member
  obtain ⟨relay, _, inner⟩ := List.mem_flatMap.mp origin
  obtain ⟨role, _, listed⟩ := List.mem_flatMap.mp inner
  exact (List.mem_filter.mp listed).1

theorem attachment_of_build {s : AddressSpace} {t : Topology} {p : AddressPlan}
    (built : s.build t = .ok p) {a : AttachmentLink} (member : a ∈ p.attachments) :
    ⟨a.track, a.relay, a.role, a.host⟩ ∈ t.attachments :=
  List.fst_mem_of_mem_zipIdx (origin_of_build built member)

end AddressPlan

end RelayMesh
