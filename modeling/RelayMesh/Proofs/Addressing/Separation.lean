import RelayMesh.Proofs.Addressing.Allocation
import RelayMesh.Proofs.Topology.Loading
import RelayMesh.Proofs.Topology.Pairs

/-! No two subnets of a plan share an address, and no address of a plan is taken twice. This needs
that the ranges of the classes are apart, that the subnets within a range are apart, and that the
addresses within a subnet stand at different distances from its base. -/

namespace RelayMesh

namespace AddressSpace

open Checked (bind_ok)

variable {s : AddressSpace}

theorem checkDisjoint_of_check (accepted : s.check = .ok ()) : s.checkDisjoint = .ok () := by
  simp only [check, bind_ok] at accepted
  obtain ⟨_, disjoint, _⟩ := accepted
  exact disjoint

theorem mem_classPairs {c₁ c₂ : AddressClass} (different : c₁ ≠ c₂) :
    (c₁, c₂) ∈ classPairs ∨ (c₂, c₁) ∈ classPairs := by
  cases c₁ <;> cases c₂ <;> first | contradiction | decide

theorem ranges_disjoint (checked : s.checkDisjoint = .ok ()) {c₁ c₂ : AddressClass}
    (different : c₁ ≠ c₂) : (s.range c₁).Disjoint (s.range c₂) := by
  have apart : ∀ d₁ d₂, (d₁, d₂) ∈ classPairs → (s.range d₁).Disjoint (s.range d₂) := by
    intro d₁ d₂ listed
    unfold checkDisjoint at checked
    split at checked
    · contradiction
    · rename_i no_overlap
      have clear := List.find?_eq_none.mp no_overlap _ listed
      simp only [overlap, Bool.or_eq_true, not_or, Bool.not_eq_true] at clear
      exact Network.disjoint_of_not_contains clear.1 clear.2
  rcases mem_classPairs different with listed | listed
  · exact apart c₁ c₂ listed
  · exact (apart c₂ c₁ listed).symm

theorem drawn_cases {sub : Subnet} (drawn : sub.DrawnFrom s) :
    (sub.cls = .relayIdentity ∧ ∃ a, (s.range sub.cls).host? sub.index = some a ∧
      sub.network = ⟨a, 32, by decide⟩) ∨
    (sub.cls ≠ .relayIdentity ∧
      (s.range sub.cls).subnet? (s.subnetLength sub.cls) sub.index = some sub.network) := by
  unfold Subnet.DrawnFrom network? at drawn
  split at drawn
  · rename_i identity
    obtain ⟨a, found, same⟩ := Option.map_eq_some_iff.mp drawn
    exact .inl ⟨identity, a, identity ▸ found, same.symm⟩
  · rename_i other
    exact .inr ⟨other, drawn⟩

theorem holds_single (a b : Address) :
    Network.Holds ⟨a, 32, by decide⟩ b ↔ b.toNat = a.toNat := by
  simp only [Network.Holds, Network.base, Network.size_eq, Nat.sub_self, pow_zero, Nat.div_one,
    Nat.mul_one]
  omega

theorem holds_range_of_drawn {sub : Subnet} (drawn : sub.DrawnFrom s) {a : Address}
    (held : sub.network.Holds a) : (s.range sub.cls).Holds a := by
  rcases drawn_cases drawn with ⟨_, b, found, network⟩ | ⟨_, split⟩
  · rw [network, holds_single] at held
    have inside := (Network.host?_spec found).2.1
    simpa only [Network.Holds, held] using inside
  · exact Network.holds_of_subnet? split held

theorem disjoint_of_drawn (checked : s.checkDisjoint = .ok ()) {x y : Subnet}
    (drawnX : x.DrawnFrom s) (drawnY : y.DrawnFrom s) (different : x.key ≠ y.key) :
    x.network.Disjoint y.network := by
  by_cases cls : x.cls = y.cls
  · have index : x.index ≠ y.index := fun same => different (by rw [Subnet.key, cls, same]; rfl)
    rcases drawn_cases drawnX with ⟨clsX, a, foundA, networkX⟩ | ⟨clsX, splitX⟩
    · rcases drawn_cases drawnY with ⟨_, b, foundB, networkY⟩ | ⟨clsY, _⟩
      · rw [cls] at foundA
        have numberA := (Network.host?_spec foundA).1
        have numberB := (Network.host?_spec foundB).1
        intro c hx hy
        rw [networkX, holds_single] at hx
        rw [networkY, holds_single] at hy
        omega
      · exact absurd (cls ▸ clsX) clsY
    · rcases drawn_cases drawnY with ⟨clsY, _⟩ | ⟨_, splitY⟩
      · exact absurd (cls.trans clsY) clsX
      · rw [cls] at splitX
        exact Network.disjoint_of_subnet? splitX splitY index
  · intro a hx hy
    exact ranges_disjoint checked cls a (holds_range_of_drawn drawnX hx)
      (holds_range_of_drawn drawnY hy)

theorem address_eq_base_of_drawn {sub : Subnet} (drawn : sub.DrawnFrom s) :
    sub.network.address.toNat = sub.network.base := by
  rcases drawn_cases drawn with ⟨_, a, _, network⟩ | ⟨_, split⟩
  · simp only [network, Network.base, Network.size_eq, Nat.sub_self, pow_zero, Nat.div_one,
      Nat.mul_one]
  · exact (Network.subnet?_spec split).2.1

theorem two_le_uplinkPeerOffset {t : Topology} (checked : s.checkCapacity t = .ok ()) :
    2 ≤ s.uplinkPeerOffset.toNat := by
  simp only [checkCapacity, bind_ok] at checked
  obtain ⟨_, _, _, _, _, _, _, _, _, _, offset⟩ := checked
  split at offset
  · contradiction
  · omega

end AddressSpace

namespace AddressPlan

def grants (p : AddressPlan) : List (Subnet × List Address) :=
  p.identities.map (fun sub => (sub, [sub.network.address]))
    ++ p.attachments.map (fun a => (a.subnet, [a.relayAddress, a.hostAddress]))
    ++ p.backbone.map (fun l => (l.subnet, [l.addressA, l.addressB]))
    ++ [(p.control.uplink, [p.control.uplinkAddress, p.control.uplinkPeerAddress]),
      (p.control.segment, p.control.controlAddress :: p.control.relayAddresses)]

/-- The addresses of all interfaces, and that of the peer at the far end of the uplink. -/
def addresses (p : AddressPlan) : List Address :=
  (p.interfaces none).map (·.network.address) ++ [p.control.uplinkPeerAddress]

def requiredKeys (t : Topology) : List (AddressClass × Nat) :=
  (List.range t.numRelays).map (AddressClass.relayIdentity, ·)
    ++ (List.range t.attachments.length).map (AddressClass.clientAttachment, ·)
    ++ (List.range t.pairCount).map (AddressClass.meshBackbone, ·)
    ++ [(.controlPlane, 0), (.controlPlane, 1)]

theorem nodup_requiredKeys (t : Topology) : (requiredKeys t).Nodup := by
  have each : ∀ (cls : AddressClass) (n : Nat), ((List.range n).map (cls, ·)).Nodup :=
    fun cls n => List.nodup_range.map fun _ _ same => (Prod.mk.inj same).2
  simp only [requiredKeys, List.nodup_append, each, List.mem_append, List.mem_map]
  grind

theorem length_requiredKeys (t : Topology) :
    (requiredKeys t).length =
      t.numRelays + t.attachments.length + t.numRelays * (t.numRelays - 1) / 2 + 2 := by
  simp only [requiredKeys, Topology.pairCount, List.length_append, List.length_map,
    List.length_range, List.length_cons, List.length_nil]

theorem grants_subnets (p : AddressPlan) : p.grants.map (·.1) = p.subnets := by
  simp [grants, subnets, Function.comp_def]

theorem addresses_identities (identities : List Subnet) :
    identities.zipIdx.map (fun entry => entry.1.network.address) =
      identities.flatMap fun sub => [sub.network.address] := by
  rw [← List.map_eq_flatMap]
  conv_rhs => rw [← List.zipIdx_map_fst 0 identities, List.map_map]
  rfl

theorem grants_addresses (p : AddressPlan) : (p.grants.flatMap (·.2)).Perm p.addresses := by
  have control : ∀ u x c (rs : List Address), (u :: x :: c :: rs).Perm (u :: c :: (rs ++ [x])) :=
    fun u x c rs => (List.perm_append_singleton x (c :: rs)).symm.cons u
  simp only [grants, addresses, interfaces, materialized, backboneInterfaces, attachmentInterfaces,
    controlInterfaces, Network.withAddress, List.map_append, List.flatMap_append, List.map_flatMap,
    List.flatMap_map, List.map_map, List.map_cons, List.map_nil, List.flatMap_cons,
    List.flatMap_nil, Function.comp_def, addresses_identities, List.append_assoc, List.cons_append,
    List.nil_append, List.append_nil]
  have relays := List.zipIdx_map_fst 0 p.control.relayAddresses
  change p.control.relayAddresses.zipIdx.map (fun entry => entry.1) = _ at relays
  rw [relays]
  apply List.Perm.append_left
  refine (List.perm_append_comm_assoc _ _ _).trans ?_
  exact ((control _ _ _ _).append_left _).append_left _

/-- No two subnets share an address, each lies in the range of its class, and there is one for each
relay, attachment and pair of relays, and two for the control plane. All addresses are different;
each was taken from a subnet, where it is a host, and an identity is a host of its range. -/
structure Separated (s : AddressSpace) (t : Topology) (p : AddressPlan) : Prop where
  disjoint : p.subnets.Pairwise fun x y => x.network.Disjoint y.network
  inside : ∀ sub ∈ p.subnets, ∀ a, sub.network.Holds a → (s.configured sub.cls).Holds a
  places : p.subnets.map Subnet.key = requiredKeys t
  count : p.subnets.length =
    t.numRelays + t.attachments.length + t.numRelays * (t.numRelays - 1) / 2 + 2
  distinct : p.addresses.Nodup
  granted : p.grants.map (·.1) = p.subnets ∧ (p.grants.flatMap (·.2)).Perm p.addresses
  hosts : ∀ g ∈ p.grants, ∀ a ∈ g.2, g.1.network.HoldsHost a
  identities : ∀ sub ∈ p.identities,
    (s.configured .relayIdentity).HoldsHost sub.network.address

section Built

variable {s : AddressSpace} {t : Topology} {p : AddressPlan}

open AddressSpace

theorem keys_of_build (placed : ∀ a ∈ t.attachments, a.relay < t.numRelays)
    (built : s.build t = .ok p) : p.subnets.map Subnet.key = requiredKeys t := by
  obtain ⟨_, identities, attachments, backbone, control⟩ := build_spec built
  have identityKeys := (identities_spec identities).1
  obtain ⟨origins, attachmentKeys, _⟩ := attachments_spec attachments
  obtain ⟨pairs, backboneKeys, _⟩ := backbone_spec backbone
  obtain ⟨_, uplink, _, segment, _⟩ := control_spec control
  have clients : p.attachments.length = t.attachments.length := by
    rw [← List.length_map (·.origin), origins, (attachmentOrder_perm placed).length_eq,
      List.length_zipIdx]
  have links : p.backbone.length = t.pairCount := by
    rw [← List.length_map (·.pair), pairs, Topology.allPairs, length_pairsBelow, Topology.pairCount]
  simp only [subnets, requiredKeys, List.map_append, List.map_map, Function.comp_def, List.map_cons,
    List.map_nil, uplink, segment]
  rw [← clients, ← links, ← attachmentKeys, ← backboneKeys, ← identityKeys]

theorem drawn_of_build (built : s.build t = .ok p) {sub : Subnet} (member : sub ∈ p.subnets) :
    sub.DrawnFrom s := by
  obtain ⟨_, identities, attachments, backbone, control⟩ := build_spec built
  obtain ⟨_, _, uplink, _, segment, _⟩ := control_spec control
  simp only [subnets, List.mem_append, List.mem_map, List.mem_cons, List.not_mem_nil,
    or_false] at member
  rcases member with ((identity | ⟨a, attached, rfl⟩) | ⟨l, linked, rfl⟩) | rfl | rfl
  · exact (identities_spec identities).2 sub identity
  · exact ((attachments_spec attachments).2.2 a attached).1
  · exact ((backbone_spec backbone).2.2 l linked).1
  · exact uplink
  · exact segment

theorem identity_host {identities : List Subnet}
    (done : s.allocateIdentities t = .ok identities) {sub : Subnet} (member : sub ∈ identities) :
    ∃ a, (s.range .relayIdentity).host? sub.index = some a ∧
      sub.network = ⟨a, 32, by decide⟩ := by
  obtain ⟨r, _, drawn⟩ := Checked.mem_of_mapM_ok done member
  obtain ⟨key, spec⟩ := draw_spec drawn
  have cls : sub.cls = .relayIdentity := (Prod.mk.inj key).1
  rcases drawn_cases spec with ⟨_, a, found, network⟩ | ⟨other, _⟩
  · exact ⟨a, cls ▸ found, network⟩
  · contradiction

theorem uplink_hosts {c : ControlPlane} (done : s.allocateControl t = .ok c)
    (offset : 2 ≤ s.uplinkPeerOffset.toNat) :
    [c.uplinkAddress, c.uplinkPeerAddress].Nodup ∧
      c.uplink.network.HoldsHost c.uplinkAddress ∧
      c.uplink.network.HoldsHost c.uplinkPeerAddress := by
  obtain ⟨_, _, _, _, _, own, peer, _⟩ := control_spec done
  obtain ⟨ownNumber, ownHost⟩ := Network.atOffset?_spec own (by decide)
  obtain ⟨peerNumber, peerHost⟩ := Network.atOffset?_spec peer (by omega)
  have different : c.uplinkAddress ≠ c.uplinkPeerAddress := by
    intro same
    rw [same] at ownNumber
    omega
  exact ⟨by simpa using different, ownHost, peerHost⟩

theorem segment_hosts {c : ControlPlane} (done : s.allocateControl t = .ok c) :
    (c.controlAddress :: c.relayAddresses).Nodup ∧
      ∀ a ∈ c.controlAddress :: c.relayAddresses, c.segment.network.HoldsHost a := by
  obtain ⟨_, _, _, _, _, _, _, control, relays⟩ := control_spec done
  obtain ⟨number, host⟩ := Network.atOffset?_spec control (by decide)
  have numbers : c.relayAddresses.map (·.toNat) =
      t.relayIds.map fun r => c.segment.network.base + (r + 2) :=
    Checked.map_of_mapM_ok relays _ _ fun r a given =>
      (Network.atOffset?_spec (address_spec given) (by omega)).1
  have distinct : c.relayAddresses.Nodup := by
    apply List.Nodup.of_map (·.toNat)
    rw [numbers]
    exact List.nodup_range.map fun i j same => by simpa using same
  refine ⟨List.nodup_cons.mpr ⟨fun member => ?_, distinct⟩, fun a member => ?_⟩
  · obtain ⟨r, _, given⟩ := Checked.mem_of_mapM_ok relays member
    have other := (Network.atOffset?_spec (address_spec given) (by omega)).1
    omega
  · rcases List.mem_cons.mp member with rfl | member
    · exact host
    · obtain ⟨r, _, given⟩ := Checked.mem_of_mapM_ok relays member
      exact (Network.atOffset?_spec (address_spec given) (by omega)).2

theorem hosts_of_build (built : s.build t = .ok p) {g : Subnet × List Address}
    (member : g ∈ p.grants) : g.2.Nodup ∧ ∀ a ∈ g.2, g.1.network.HoldsHost a := by
  obtain ⟨capacity, identities, attachments, backbone, control⟩ := build_spec built
  have link : ∀ {sub x y}, Subnet.Joins sub x y →
      [x, y].Nodup ∧ ∀ a ∈ [x, y], sub.network.HoldsHost a := by
    intro sub x y joins
    refine ⟨by simpa using joins.ne, fun a listed => ?_⟩
    rcases List.mem_pair.mp listed with rfl | rfl
    · exact joins.holdsHost.1
    · exact joins.holdsHost.2
  simp only [grants, List.mem_append, List.mem_map, List.mem_cons, List.not_mem_nil,
    or_false] at member
  rcases member with ((⟨sub, identity, rfl⟩ | ⟨a, attached, rfl⟩) | ⟨l, linked, rfl⟩) | rfl | rfl
  · refine ⟨List.nodup_singleton _, fun a listed => ?_⟩
    rw [List.mem_singleton.mp listed]
    obtain ⟨b, _, network⟩ := identity_host identities identity
    rw [network]
    exact ⟨Network.holds_address _, fun short => absurd short (show ¬ 32 ≤ 30 by decide)⟩
  · exact link ((attachments_spec attachments).2.2 a attached).2
  · exact link ((backbone_spec backbone).2.2 l linked).2
  · obtain ⟨distinct, own, peer⟩ := uplink_hosts control (two_le_uplinkPeerOffset capacity)
    refine ⟨distinct, fun a listed => ?_⟩
    rcases List.mem_pair.mp listed with rfl | rfl
    · exact own
    · exact peer
  · exact segment_hosts control

theorem disjoint_of_build (accepted : s.check = .ok ())
    (placed : ∀ a ∈ t.attachments, a.relay < t.numRelays) (built : s.build t = .ok p) :
    p.subnets.Pairwise fun x y => x.network.Disjoint y.network := by
  have keys : (p.subnets.map Subnet.key).Nodup := by
    rw [keys_of_build placed built]
    exact nodup_requiredKeys t
  refine (List.pairwise_map.mp keys).imp_of_mem fun hx hy different => ?_
  exact disjoint_of_drawn (checkDisjoint_of_check accepted) (drawn_of_build built hx)
    (drawn_of_build built hy) different

theorem nodup_addresses (accepted : s.check = .ok ())
    (placed : ∀ a ∈ t.attachments, a.relay < t.numRelays) (built : s.build t = .ok p) :
    p.addresses.Nodup := by
  rw [← p.grants_addresses.nodup_iff, List.nodup_flatMap]
  refine ⟨fun g member => (hosts_of_build built member).1, ?_⟩
  have apart := disjoint_of_build accepted placed built
  rw [← grants_subnets, List.pairwise_map] at apart
  refine apart.imp_of_mem fun hg hh disjoint a first second => ?_
  exact disjoint a ((hosts_of_build built hg).2 a first).1 ((hosts_of_build built hh).2 a second).1

end Built

/-- The plan of a loaded topology keeps all its subnets and addresses apart, however the ranges lie
and whatever the lengths of the subnets are. -/
theorem separated_of_build {policy : DuplicateEdges} {doc : Document} {s : AddressSpace}
    {t : Topology} {p : AddressPlan} (loaded : Topology.load policy doc = .ok t)
    (accepted : s.check = .ok ()) (built : s.build t = .ok p) : Separated s t p := by
  have placed : ∀ a ∈ t.attachments, a.relay < t.numRelays := fun a member =>
    (Topology.attachments_of_load loaded member).1
  have places := keys_of_build placed built
  obtain ⟨_, identities, _⟩ := AddressSpace.build_spec built
  constructor
  · exact disjoint_of_build accepted placed built
  · intro sub member a held
    exact (Network.holds_truncated _ a).mp
      (AddressSpace.holds_range_of_drawn (drawn_of_build built member) held)
  · exact places
  · rw [← List.length_map Subnet.key, places, length_requiredKeys]
  · exact nodup_addresses accepted placed built
  · exact ⟨p.grants_subnets, p.grants_addresses⟩
  · exact fun g member => (hosts_of_build built member).2
  · intro sub member
    obtain ⟨a, found, network⟩ := identity_host identities member
    rw [network]
    exact (Network.holdsHost_truncated _ a).mp (Network.host?_spec found).2

def narrowSpace : AddressSpace where
  backboneRange := ⟨.ofOctets 255 255 255 244, 28, by decide⟩
  backboneLength := 31
  identityRange := ⟨.ofOctets 10 3 0 77, 29, by decide⟩
  attachmentRange := ⟨.ofOctets 10 2 0 0, 29, by decide⟩
  attachmentLength := 30
  controlRange := ⟨.ofOctets 10 1 0 0, 28, by decide⟩
  controlLength := 29
  uplinkPeerOffset := 2

def narrowPlan : AddressPlan :=
  (narrowSpace.build Topology.square).toOption.getD default

theorem separated_narrowPlan :
    Topology.load .firstWins Topology.squareDocument = .ok Topology.square ∧
      narrowSpace.check = .ok () ∧ narrowSpace.build Topology.square = .ok narrowPlan ∧
      Separated narrowSpace Topology.square narrowPlan :=
  have built : narrowSpace.build Topology.square = .ok narrowPlan := rfl
  ⟨Topology.load_square, by decide, built,
    separated_of_build Topology.load_square (by decide) built⟩

end AddressPlan

end RelayMesh
