import RelayMesh.Proofs.Addressing.Completeness

namespace RelayMesh

/-- How many members at the base of a network of this length are no hosts. -/
def Network.skipped (length : Nat) : Nat :=
  if length < 31 then 1 else 0

def AddressSpace.start (s : AddressSpace) (cls : AddressClass) (place : Nat) : Nat :=
  (s.range cls).base + place * 2 ^ (32 - s.subnetLength cls)

structure Subnet.Stands (s : AddressSpace) (cls : AddressClass) (place : Nat) (sub : Subnet) :
    Prop where
  key : sub.key = (cls, place)
  length : sub.network.length = s.subnetLength cls
  start : sub.network.address.toNat = s.start cls place

structure Subnet.Links (s : AddressSpace) (cls : AddressClass) (place : Nat) (sub : Subnet)
    (first second : Address) : Prop extends sub.Stands s cls place where
  joins : sub.Joins first second
  first : first.toNat = s.start cls place + Network.skipped (s.subnetLength cls)
  second : second.toNat = s.start cls place + Network.skipped (s.subnetLength cls) + 1

/-- The order of attachments: relay by relay, the first hops before the last hops, and otherwise as
in the topology. -/
def Attachment.Before (x y : Attachment × Nat) : Prop :=
  x.1.relay < y.1.relay ∨ x.1.relay = y.1.relay ∧
    (x.1.role = .firstHop ∧ y.1.role = .lastHop ∨ x.1.role = y.1.role ∧ x.2 < y.2)

structure AddressPlan.ClosedForm (s : AddressSpace) (t : Topology) (p : AddressPlan) : Prop where
  identities : p.identities.map Subnet.key =
    (List.range t.numRelays).map (AddressClass.relayIdentity, ·)
  identity (relay : NodeId) (inside : relay < t.numRelays) : ∃ a, p.identity? relay = some a ∧
    a.toNat = (s.range .relayIdentity).base + relay
      + Network.skipped (s.range .relayIdentity).length
  /-- The attachments are those of the topology, with their places there. -/
  attachments : (p.attachments.map (·.origin)).Perm t.attachments.zipIdx
  ordered : (p.attachments.map (·.origin)).Pairwise Attachment.Before
  attachment (k : Nat) (a : AttachmentLink) (listed : p.attachments[k]? = some a) :
    a.subnet.Links s .clientAttachment k a.relayAddress a.hostAddress
  /-- Each pair of relays has its link, in whichever order it is asked for. -/
  link (i j : NodeId) (order : i < j) (inside : j < t.numRelays) : ∃ l,
    p.backboneLink? i j = some l ∧ p.backboneLink? j i = some l ∧ l.pair = (i, j) ∧
      l.subnet.Links s .meshBackbone (pairPlace t.numRelays i j) l.addressA l.addressB
  unlinked (x y : NodeId) (other : ¬ (x < t.numRelays ∧ y < t.numRelays ∧ x ≠ y)) :
    p.backboneLink? x y = none
  control : p.control.control = t.control
  uplink : p.control.uplink.Stands s .controlPlane 0
  uplinkAddress : p.control.uplinkAddress.toNat = s.start .controlPlane 0 + 1
  uplinkPeerAddress :
    p.control.uplinkPeerAddress.toNat = s.start .controlPlane 0 + s.uplinkPeerOffset.toNat
  segment : p.control.segment.Stands s .controlPlane 1
  controlAddress : p.control.controlAddress.toNat = s.start .controlPlane 1 + 1
  relayAddresses : p.control.relayAddresses.map (·.toNat) =
    t.relayIds.map fun relay => s.start .controlPlane 1 + (relay + 2)

namespace AddressSpace

variable {s : AddressSpace}

theorem stands_of_drawn {cls : AddressClass} {place : Nat} {sub : Subnet}
    (key : sub.key = (cls, place)) (drawn : sub.DrawnFrom s) (parted : cls ≠ .relayIdentity) :
    sub.Stands s cls place ∧ sub.network.base = s.start cls place := by
  obtain ⟨rfl, rfl⟩ := Prod.mk.inj key
  rcases drawn_cases drawn with ⟨identity, _⟩ | ⟨_, subnet⟩
  · contradiction
  · obtain ⟨length, clean, base, _⟩ := Network.subnet?_spec subnet
    rw [Network.size_eq, length] at base
    exact ⟨⟨rfl, length, clean.trans base⟩, base⟩

theorem links_of_drawn {cls : AddressClass} {place : Nat} {sub : Subnet} {x y : Address}
    (key : sub.key = (cls, place)) (drawn : sub.DrawnFrom s) (joins : sub.Joins x y)
    (parted : cls ≠ .relayIdentity) : sub.Links s cls place x y := by
  obtain ⟨stands, base⟩ := stands_of_drawn key drawn parted
  have first := (Network.host?_spec joins.first).1
  have second := (Network.host?_spec joins.second).1
  rw [base, stands.length] at first second
  refine ⟨stands, joins, first, ?_⟩
  rw [second, Network.skipped]
  omega

theorem pairwise_zipIdx_snd {α : Type} (xs : List α) :
    xs.zipIdx.Pairwise fun x y => x.2 < y.2 := by
  apply List.pairwise_map.mp
  rw [List.zipIdx_map_snd]
  exact List.pairwise_lt_range'

theorem pairwise_attachmentOrder (t : Topology) :
    (attachmentOrder t).Pairwise Attachment.Before := by
  have grouped {relay : NodeId} {role : HopRole} {x : Attachment × Nat}
      (member : x ∈ t.attachments.zipIdx.filter fun x => x.1.relay == relay && x.1.role == role) :
      x.1.relay = relay ∧ x.1.role = role := by
    simpa using (List.mem_filter.mp member).2
  refine List.pairwise_flatMap.mpr ⟨fun relay _ => List.pairwise_flatMap.mpr ⟨?_, ?_⟩, ?_⟩
  · intro role _
    refine ((pairwise_zipIdx_snd t.attachments).filter _).imp_of_mem ?_
    intro x y first second before
    obtain ⟨relayX, roleX⟩ := grouped first
    obtain ⟨relayY, roleY⟩ := grouped second
    exact .inr ⟨relayX.trans relayY.symm, .inr ⟨roleX.trans roleY.symm, before⟩⟩
  · refine List.pairwise_pair.mpr fun x first y second => ?_
    obtain ⟨relayX, roleX⟩ := grouped first
    obtain ⟨relayY, roleY⟩ := grouped second
    exact .inr ⟨relayX.trans relayY.symm, .inl ⟨roleX, roleY⟩⟩
  · refine List.pairwise_lt_range.imp fun before x first y second => ?_
    obtain ⟨_, _, first⟩ := List.mem_flatMap.mp first
    obtain ⟨_, _, second⟩ := List.mem_flatMap.mp second
    exact .inl (by rw [(grouped first).1, (grouped second).1]; exact before)

theorem key_of_listed {κ : Type} {cls : AddressClass} {subnet : κ → Subnet} {drawn : List κ}
    {count : Nat} (keys : drawn.map (fun l => (subnet l).key) = (List.range count).map (cls, ·))
    {k : Nat} {l : κ} (listed : drawn[k]? = some l) : (subnet l).key = (cls, k) := by
  have key := congrArg (·[k]?) keys
  obtain ⟨inside, rfl⟩ := List.getElem?_eq_some_iff.mp listed
  have length : drawn.length = count := by simpa using congrArg List.length keys
  simpa [inside, ← length] using key

end AddressSpace

namespace AddressPlan

open AddressSpace (build_spec identities_spec attachments_spec backbone_spec)

variable {s : AddressSpace} {t : Topology} {p : AddressPlan} (built : s.build t = .ok p)
include built

theorem identity_of_build {relay : NodeId} (inside : relay < t.numRelays) :
    ∃ a, p.identity? relay = some a ∧ a.toNat = (s.range .relayIdentity).base + relay
      + Network.skipped (s.range .relayIdentity).length := by
  obtain ⟨_, identities, _⟩ := build_spec built
  have keys := (identities_spec identities).1
  have bound : relay < p.identities.length := by
    rw [length_identities_of_build built]
    exact inside
  have place : p.identities[relay].key = (.relayIdentity, relay) :=
    AddressSpace.key_of_listed keys (List.getElem?_eq_getElem bound)
  obtain ⟨a, host, network⟩ := identity_host identities (List.getElem_mem bound)
  refine ⟨a, by rw [identity?, List.getElem?_eq_getElem bound, Option.map_some, network], ?_⟩
  rw [(Prod.mk.inj place).2] at host
  exact (Network.host?_spec host).1

theorem link_of_build {i j : NodeId} (order : i < j) (inside : j < t.numRelays) : ∃ l,
    p.backboneLink? i j = some l ∧ p.backboneLink? j i = some l ∧ l.pair = (i, j) ∧
      l.subnet.Links s .meshBackbone (pairPlace t.numRelays i j) l.addressA l.addressB := by
  obtain ⟨_, _, _, backbone, _⟩ := build_spec built
  obtain ⟨pairs, keys, drawn⟩ := backbone_spec backbone
  have pair : (p.backbone.map (·.pair))[pairPlace t.numRelays i j]? = some (i, j) := by
    rw [pairs]
    exact getElem?_pairPlace order inside
  rw [List.getElem?_map] at pair
  obtain ⟨l, listed, ends⟩ := Option.map_eq_some_iff.mp pair
  have member := List.mem_of_getElem? listed
  obtain ⟨rfl, rfl⟩ := Prod.mk.inj ends
  have found := backboneLink?_own built member
  refine ⟨l, found, ?_, ends, ?_⟩
  · rw [backboneLink?, orderedPair_comm]
    exact found
  · obtain ⟨own, joins⟩ := drawn l member
    exact AddressSpace.links_of_drawn (AddressSpace.key_of_listed keys listed) own joins (by decide)

theorem unlinked_of_build {x y : NodeId}
    (other : ¬ (x < t.numRelays ∧ y < t.numRelays ∧ x ≠ y)) : p.backboneLink? x y = none := by
  rw [Option.eq_none_iff_forall_ne_some]
  intro l found
  obtain ⟨member, ends⟩ := backboneLink?_spec found
  obtain ⟨order, inside⟩ := ends_of_build built member
  rw [BackboneLink.pair] at ends
  rcases orderedPair_eq x y with same | same
  · obtain ⟨rfl, rfl⟩ := Prod.mk.inj (ends.trans same)
    exact other ⟨order.trans inside, inside, Nat.ne_of_lt order⟩
  · obtain ⟨rfl, rfl⟩ := Prod.mk.inj (ends.trans same)
    exact other ⟨inside, order.trans inside, Nat.ne_of_gt order⟩

theorem attachment_links {k : Nat} {a : AttachmentLink} (listed : p.attachments[k]? = some a) :
    a.subnet.Links s .clientAttachment k a.relayAddress a.hostAddress := by
  obtain ⟨_, _, attachments, _⟩ := build_spec built
  obtain ⟨_, keys, drawn⟩ := attachments_spec attachments
  obtain ⟨own, joins⟩ := drawn a (List.mem_of_getElem? listed)
  exact AddressSpace.links_of_drawn (AddressSpace.key_of_listed keys listed) own joins (by decide)

end AddressPlan

open AddressSpace in
/-- All numbers of a plan are known from the address space and the topology. -/
theorem AddressPlan.closedForm_of_build {policy : DuplicateEdges} {doc : Document}
    {s : AddressSpace} {t : Topology} {p : AddressPlan}
    (loaded : Topology.load policy doc = .ok t) (built : s.build t = .ok p) :
    ClosedForm s t p := by
  obtain ⟨capacity, identities, attachments, _, control⟩ := build_spec built
  have origins := (attachments_spec attachments).1
  obtain ⟨node, uplinkKey, uplinkDrawn, segmentKey, segmentDrawn, uplink, peer, segment, relays⟩ :=
    control_spec control
  obtain ⟨uplinkStands, uplinkBase⟩ := stands_of_drawn uplinkKey uplinkDrawn (by decide)
  obtain ⟨segmentStands, segmentBase⟩ := stands_of_drawn segmentKey segmentDrawn (by decide)
  have offset : 0 < s.uplinkPeerOffset.toNat := by
    have least := two_le_uplinkPeerOffset capacity
    omega
  have placed : ∀ a ∈ t.attachments, a.relay < t.numRelays := fun a member =>
    (Topology.attachments_of_load loaded member).1
  constructor
  · exact (identities_spec identities).1
  · exact fun _ inside => identity_of_build built inside
  · exact origins ▸ attachmentOrder_perm placed
  · exact origins ▸ pairwise_attachmentOrder t
  · exact fun _ _ listed => attachment_links built listed
  · exact fun _ _ order inside => link_of_build built order inside
  · exact fun _ _ other => unlinked_of_build built other
  · exact node
  · exact uplinkStands
  · exact uplinkBase ▸ (Network.atOffset?_spec uplink (by decide)).1
  · exact uplinkBase ▸ (Network.atOffset?_spec peer offset).1
  · exact segmentStands
  · exact segmentBase ▸ (Network.atOffset?_spec segment (by decide)).1
  · refine Checked.map_of_mapM_ok relays _ _ fun relay a given => ?_
    exact segmentBase ▸ (Network.atOffset?_spec (address_spec given) (by omega)).1

theorem AddressPlan.closedForm_narrowPlan :
    Topology.load .firstWins Topology.squareDocument = .ok Topology.square ∧
      narrowSpace.build Topology.square = .ok narrowPlan ∧
      (narrowPlan.backboneLink? 2 1).map (fun l => (l.subnet.index, l.addressA.toString)) =
        some (3, "255.255.255.246") ∧
      ClosedForm narrowSpace Topology.square narrowPlan :=
  have built : narrowSpace.build Topology.square = .ok narrowPlan := rfl
  ⟨Topology.load_square, built, by decide, closedForm_of_build Topology.load_square built⟩

end RelayMesh
