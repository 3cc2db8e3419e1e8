import RelayMesh.Proofs.Addressing.Ownership
import RelayMesh.Proofs.Topology.Nodes
import RelayMesh.Proofs.Topology.Pairs

namespace RelayMesh.AddressPlan

variable {s : AddressSpace} {t : Topology} {p : AddressPlan}

theorem length_identities_of_build (built : s.build t = .ok p) :
    p.identities.length = t.numRelays := by
  obtain ⟨_, identities, _⟩ := AddressSpace.build_spec built
  have keys := congrArg List.length (AddressSpace.identities_spec identities).1
  simpa using keys

theorem identity?_of_build (built : s.build t = .ok p) {relay : NodeId}
    (inside : relay < t.numRelays) : ∃ a, p.identity? relay = some a := by
  have bound : relay < p.identities.length := by
    rw [length_identities_of_build built]
    exact inside
  refine ⟨p.identities[relay].network.address, ?_⟩
  rw [identity?, List.getElem?_eq_getElem bound]
  rfl

theorem pairs_of_build (built : s.build t = .ok p) : p.backbone.map (·.pair) = t.allPairs := by
  obtain ⟨_, _, _, backbone, _⟩ := AddressSpace.build_spec built
  exact (AddressSpace.backbone_spec backbone).1

theorem ends_of_build (built : s.build t = .ok p) {l : BackboneLink} (member : l ∈ p.backbone) :
    l.a < l.b ∧ l.b < t.numRelays := by
  have pair : l.pair ∈ t.allPairs := by
    rw [← pairs_of_build built]
    exact List.mem_map_of_mem member
  exact mem_pairsBelow.mp pair

theorem control_of_build (built : s.build t = .ok p) : p.control.control = t.control := by
  obtain ⟨_, _, _, _, control⟩ := AddressSpace.build_spec built
  exact (AddressSpace.control_spec control).1

theorem length_relayAddresses_of_build (built : s.build t = .ok p) :
    p.control.relayAddresses.length = t.numRelays := by
  obtain ⟨_, _, _, _, control⟩ := AddressSpace.build_spec built
  obtain ⟨_, _, _, _, _, _, _, _, relays⟩ := AddressSpace.control_spec control
  rw [← (Checked.mapM_ok.mp relays).length_eq, Topology.relayIds, List.length_range]

theorem backboneLink?_of_build (built : s.build t = .ok p) {x y : NodeId}
    (insideX : x < t.numRelays) (insideY : y < t.numRelays) (different : x ≠ y) :
    ∃ l, p.backboneLink? x y = some l := by
  have listed := Topology.orderedPair_mem_allPairs insideX insideY different
  rw [← pairs_of_build built] at listed
  obtain ⟨l, member, ends⟩ := List.mem_map.mp listed
  rw [← Option.isSome_iff_exists, backboneLink?, List.find?_isSome]
  refine ⟨l, member, ?_⟩
  rw [← ends]
  simp [BackboneLink.pair]

theorem backboneLink?_own (built : s.build t = .ok p) {l : BackboneLink} (member : l ∈ p.backbone) :
    p.backboneLink? l.a l.b = some l := by
  have distinct : (p.backbone.map (·.pair)).Nodup := by
    rw [pairs_of_build built]
    exact (pairwise_pairsBelow t.numRelays).imp Precedes.ne
  have single := filter_eq_singleton (·.pair) distinct member
  have order := orderedPair_of_le (Nat.le_of_lt (ends_of_build built member).1)
  rw [backboneLink?, order]
  change p.backbone.find? (fun k => k.pair == l.pair) = some l
  rw [← List.head?_filter, single, List.head?_cons]

/-- Looked up pair by pair or picked from the whole backbone, the links of some pairs are the same,
in the same order. -/
theorem materialized_eq_filterMap (built : s.build t = .ok p) (kept : NodeId × NodeId → Bool) :
    p.materialized (some (t.allPairs.filter kept)) =
      (t.allPairs.filter kept).filterMap fun (a, b) => p.backboneLink? a b := by
  have picked : p.materialized (some (t.allPairs.filter kept)) =
      p.backbone.filter fun l => kept l.pair := by
    apply List.filter_congr
    intro l member
    have listed : l.pair ∈ t.allPairs := mem_pairsBelow.mpr (ends_of_build built member)
    rw [Bool.eq_iff_iff, List.contains_iff_mem, List.mem_filter]
    exact and_iff_right listed
  have found : ∀ l ∈ p.backbone.filter (fun l => kept l.pair),
      p.backboneLink? l.a l.b = some l := by
    intro l member
    exact backboneLink?_own built (List.mem_filter.mp member).1
  rw [picked, ← pairs_of_build built, List.filter_map, List.filterMap_map]
  exact ((List.filterMap_congr found).trans List.filterMap_some).symm

section Clients

variable {policy : DuplicateEdges} {doc : Document} (loaded : Topology.load policy doc = .ok t)
  (built : s.build t = .ok p)
include loaded built

theorem perm_attachments_of_build : (p.attachments.map (·.origin.1)).Perm t.attachments := by
  obtain ⟨_, _, attachments, _⟩ := AddressSpace.build_spec built
  have order := AddressSpace.attachmentOrder_perm fun a member =>
    (Topology.attachments_of_load loaded (a := a) member).1
  rw [← (AddressSpace.attachments_spec attachments).1] at order
  have places := order.map Prod.fst
  rw [List.map_map, List.zipIdx_map_fst] at places
  exact places

theorem nodup_hosts_of_build : (p.attachments.map (·.host)).Nodup := by
  have hosts := (perm_attachments_of_build loaded built).map (·.host)
  rw [List.map_map] at hosts
  exact hosts.nodup_iff.mpr (Topology.nodup_hosts_of_load loaded)

theorem attachmentOfHost?_of_build {a : AttachmentLink} (member : a ∈ p.attachments) :
    p.attachmentOfHost? a.host = some a := by
  have single := filter_eq_singleton (·.host) (nodup_hosts_of_build loaded built) member
  rw [attachmentOfHost?, ← List.head?_filter, single, List.head?_cons]

theorem exists_link_of_build {a : Attachment} (member : a ∈ t.attachments) :
    ∃ link ∈ p.attachments, link.origin.1 = a :=
  List.mem_map.mp ((perm_attachments_of_build loaded built).mem_iff.mpr member)

end Clients

end RelayMesh.AddressPlan
