import RelayMesh.Proofs.Addressing.Capacity
import RelayMesh.Proofs.Addressing.ClosedForm
import RelayMesh.Proofs.NetworkPlan.Faults
import RelayMesh.Proofs.NetworkPlan.Processes
import RelayMesh.Proofs.Topology.Acceptance

/-! What the probes of publishers tell apart. A relay is known to the control node by the last octet
of its identity. Identities are handed out one after the other, so this octet is the number of the
relay up to multiples of 256: it identifies the relay in every mesh of at most so many relays. -/

namespace RelayMesh

def AddressSpace.relayOctet (s : AddressSpace) (relay : NodeId) : UInt8 :=
  UInt8.ofNat ((s.range .relayIdentity).base + relay
    + Network.skipped (s.range .relayIdentity).length)

theorem AddressSpace.relayOctet_inj (s : AddressSpace) {x y : Nat} :
    s.relayOctet x = s.relayOctet y ↔ x % 256 = y % 256 := by
  rw [relayOctet, relayOctet, ← UInt8.toNat_inj, UInt8.toNat_ofNat', UInt8.toNat_ofNat']
  omega

theorem AddressSpace.Room.numRelays_le {s : AddressSpace} {t : Topology} (room : s.Room t)
    (small : 24 ≤ s.subnetLength .controlPlane) : t.numRelays ≤ 253 := by
  have segment := room.segment
  have hosts : ∀ length, 24 ≤ length → Network.hostCount length ≤ 254 := by
    intro length small
    unfold Network.hostCount
    split
    · decide
    · split
      · decide
      · split
        · interval_cases length <;> decide
        · exact Nat.zero_le _
  have most := hosts _ small
  omega

namespace NetworkPlan

/-- The publishers wait for their tracks at their relays. Their probes are equal exactly if the
tracks are and the relays differ by a multiple of 256, so no two relays of a small mesh share a
probe; and a mesh is small when its control plane is split into subnets of at most 256 addresses. -/
structure Announced (s : AddressSpace) (p : NetworkPlan) : Prop where
  probes : ∃ api, List.Forall₂ (fun a spec => spec.node = a.host ∧
      spec.probe = .trackAnnounced api (s.relayOctet a.relay) a.track)
    (p.topology.attachmentsWith .firstHop) (p.launch.processesOf .publishers)
  equal : ∀ a ∈ p.topology.attachmentsWith .firstHop, ∀ b ∈ p.topology.attachmentsWith .firstHop,
    ∀ x ∈ p.launch.processesOf .publishers, ∀ y ∈ p.launch.processesOf .publishers,
      x.node = a.host → y.node = b.host →
        (x.probe = y.probe ↔ a.track = b.track ∧ a.relay % 256 = b.relay % 256)
  identifies : p.topology.numRelays ≤ 256 → ∀ x < p.topology.numRelays,
    ∀ y < p.topology.numRelays, s.relayOctet x = s.relayOctet y → x = y
  apart : p.topology.numRelays ≤ 256 → ∀ a ∈ p.topology.attachmentsWith .firstHop,
    ∀ b ∈ p.topology.attachmentsWith .firstHop, a.relay ≠ b.relay →
      ∀ x ∈ p.launch.processesOf .publishers, ∀ y ∈ p.launch.processesOf .publishers,
        x.node = a.host → y.node = b.host → x.probe ≠ y.probe
  small : 24 ≤ s.subnetLength .controlPlane → p.topology.numRelays ≤ 256

open LaunchPlan (apiUrl)

section Compiled

variable {c : Configuration} {doc : Document} {p : NetworkPlan} (compiled : compile c doc = .ok p)
include compiled

theorem lastOctet_of_compile {relay : NodeId} {a : Address}
    (known : p.addresses.identity? relay = some a) (inside : relay < p.topology.numRelays) :
    a.lastOctet = c.addressing.relayOctet relay := by
  obtain ⟨_, _, built⟩ := build_of_compile compiled
  obtain ⟨own, found, number⟩ := AddressPlan.identity_of_build built inside
  obtain rfl := Option.some.inj (found.symm.trans known)
  rw [Address.lastOctet, AddressSpace.relayOctet, number, UInt8.ofNat_mod_size]

theorem probes_of_compile : List.Forall₂ (fun a spec => spec.node = a.host ∧
    spec.probe = .trackAnnounced (apiUrl p.addresses) (c.addressing.relayOctet a.relay) a.track)
    (p.topology.attachmentsWith .firstHop) (p.launch.processesOf .publishers) := by
  obtain ⟨loaded, _⟩ := build_of_compile compiled
  obtain ⟨_, _, _, _, clients⟩ := LaunchPlan.build_spec (launch_of_compile compiled)
  have made := List.forall₂_and_left _ _ |>.mpr
    ⟨fun _ listed => listed, Checked.mapM_ok.mp (clients .firstHop)⟩
  refine made.imp ?_
  rintro a spec ⟨listed, made⟩
  obtain ⟨attached, role⟩ := List.mem_filter.mp listed
  obtain ⟨address, known, node, _, _, probe⟩ := LaunchPlan.clientProcess_spec made
  have inside := (Topology.attachments_of_load loaded attached).1
  refine ⟨node, ?_⟩
  rw [probe, LaunchPlan.clientProbe, beq_iff_eq.mp role, lastOctet_of_compile compiled known inside]

section Publisher

variable {a b : Attachment} {x y : ProcessSpec}
  (attached : a ∈ p.topology.attachmentsWith .firstHop)
  (started : x ∈ p.launch.processesOf .publishers) (own : x.node = a.host)
include attached started own

theorem probe_of_publisher : x.probe =
    .trackAnnounced (apiUrl p.addresses) (c.addressing.relayOctet a.relay) a.track := by
  obtain ⟨loaded, _⟩ := build_of_compile compiled
  obtain ⟨other, listed, node, probe⟩ :=
    Checked.exists_of_forall₂ (probes_of_compile compiled) started
  have same : other = a := List.inj_on_of_nodup_map (Topology.nodup_hosts_of_load loaded)
    (List.mem_filter.mp listed).1 (List.mem_filter.mp attached).1 (node.symm.trans own)
  rw [probe, same]

theorem probe_eq_iff (attachedOther : b ∈ p.topology.attachmentsWith .firstHop)
    (startedOther : y ∈ p.launch.processesOf .publishers) (ownOther : y.node = b.host) :
    x.probe = y.probe ↔ a.track = b.track ∧ a.relay % 256 = b.relay % 256 := by
  rw [probe_of_publisher compiled attached started own,
    probe_of_publisher compiled attachedOther startedOther ownOther, Probe.trackAnnounced.injEq,
    AddressSpace.relayOctet_inj]
  exact ⟨fun ⟨_, relay, track⟩ => ⟨track, relay⟩, fun ⟨track, relay⟩ => ⟨rfl, relay, track⟩⟩

end Publisher

theorem announced_of_compile : Announced c.addressing p := by
  obtain ⟨loaded, _, built⟩ := build_of_compile compiled
  have inside : ∀ a ∈ p.topology.attachmentsWith .firstHop, a.relay < p.topology.numRelays :=
    fun a listed => (Topology.attachments_of_load loaded (List.mem_filter.mp listed).1).1
  constructor
  · exact ⟨apiUrl p.addresses, probes_of_compile compiled⟩
  · intro a first b second x started y startedOther own ownOther
    exact probe_eq_iff compiled first started own second startedOther ownOther
  · intro few x below y belowOther same
    have octets := c.addressing.relayOctet_inj.mp same
    rwa [Nat.mod_eq_of_lt (Nat.lt_of_lt_of_le below few),
      Nat.mod_eq_of_lt (Nat.lt_of_lt_of_le belowOther few)] at octets
  · intro few a first b second different x started y startedOther own ownOther same
    have relays :=
      ((probe_eq_iff compiled first started own second startedOther ownOther).mp same).2
    rw [Nat.mod_eq_of_lt (Nat.lt_of_lt_of_le (inside a first) few),
      Nat.mod_eq_of_lt (Nat.lt_of_lt_of_le (inside b second) few)] at relays
    exact different relays
  · intro short
    obtain ⟨capacity, _⟩ := AddressSpace.build_spec built
    exact Nat.le_trans ((AddressSpace.checkCapacity_ok.mp capacity).numRelays_le short) (by decide)

end Compiled

def twinDocument : Document :=
  let hop : String × Int → Document := fun (track, relay) =>
    .object [("track", .text track), ("relay", .int relay)]
  .object [("nodes", .object [("number", .int 2)]),
    ("first_hop_relay", .list ([("v", 1), ("v", 2), ("u", 2)].map hop))]

def twinPlan : NetworkPlan :=
  (compile {} twinDocument).toOption.getD default

theorem twinPlan_announced :
    compile {} twinDocument = .ok twinPlan ∧
      (twinPlan.launch.processesOf .publishers).map (·.probe) =
        [("v", 1), ("v", 2), ("u", 2)].map (fun (track, relay) =>
          .trackAnnounced "http://10.1.1.1" relay track) ∧
      Announced .standard twinPlan :=
  have compiled : compile {} twinDocument = .ok twinPlan := by decide +kernel
  ⟨compiled, by decide +kernel, announced_of_compile compiled⟩

def crowdDocument : Document :=
  let hop : Int → Document := fun relay => .object [("track", .text "v"), ("relay", .int relay)]
  .object [("nodes", .object [("number", .int 257)]), ("first_hop_relay", .list ([1, 257].map hop))]

def crowdSpace : AddressSpace :=
  { AddressSpace.standard with
    backboneRange := ⟨.ofOctets 10 64 0 0, 11, by decide⟩
    backboneLength := 30
    controlLength := 22 }

def crowd : Topology :=
  .assemble (Topology.numberedNames 257) [] [("v", 0), ("v", 256)] []

theorem numRelays_crowd : crowd.numRelays = 257 := by
  change (Topology.numberedNames 257).length = 257
  rw [Topology.numberedNames, List.length_map, List.length_range]

theorem attachments_crowd :
    crowd.attachments = [⟨"v", 0, .firstHop, 257⟩, ⟨"v", 256, .firstHop, 258⟩] := by
  have start : (Topology.numberedNames 257).length = 257 := numRelays_crowd
  rw [crowd, Topology.attachments_assemble, start]
  rfl

theorem load_crowd : Topology.load .firstWins crowdDocument = .ok crowd := by
  have hop (relay : Nat) (inside : relay < 257) : Topology.DescribesHop (Topology.numberedNames 257)
      (.object [("track", .text "v"), ("relay", .int (relay + 1 : Nat))]) ("v", relay) :=
    .relay rfl (by decide) rfl (.number (inside.trans_eq numRelays_crowd.symm))
  refine Topology.load_ok_iff.mpr ⟨_, _, _, _, _, rfl, ?_, rfl⟩
  exact
    { relays := ⟨_, rfl, .counted (n := 257) rfl rfl (by decide) (by decide)⟩
      some_relay := Topology.numberedNames_ne_nil.mpr (by decide)
      distinct := Topology.nodup_numberedNames 257
      links := ⟨[], .missing rfl, .nil⟩
      no_loop := nofun
      single := fun _ => List.nodup_nil
      publishers := ⟨_, .list rfl, .cons (hop 0 (by decide)) (.cons (hop 256 (by decide)) .nil)⟩
      subscribers := ⟨[], .missing rfl, .nil⟩
      published := nofun }

theorem compile_crowd :
    ∃ p, compile { addressing := crowdSpace } crowdDocument = .ok p ∧ p.topology = crowd := by
  have accepted : crowdSpace.check = .ok () := by decide +kernel
  have room : crowdSpace.Room crowd := by
    constructor
    · rw [numRelays_crowd]
      decide
    · rw [attachments_crowd]
      decide
    · rw [Topology.pairCount, numRelays_crowd]
      decide
    · decide
    · rw [numRelays_crowd]
      decide
    · decide
    · decide
  obtain ⟨addresses, built⟩ := AddressSpace.build_ok load_crowd accepted
    (AddressSpace.checkCapacity_ok.mpr room) (by decide)
  obtain ⟨p, compiled⟩ := compile_of_compilable (c := { addressing := crowdSpace })
    ⟨load_crowd, accepted, built, .inl rfl, fun _ member => absurd member List.not_mem_nil⟩
  exact ⟨p, compiled, Except.ok.inj ((build_of_compile compiled).1.symm.trans load_crowd)⟩

/-- The first and the last relay of the crowd have one octet, and their publishers one probe. -/
theorem crowd_shares_probe : ∃ p, compile { addressing := crowdSpace } crowdDocument = .ok p ∧
    ∃ a ∈ p.topology.attachmentsWith .firstHop, ∃ b ∈ p.topology.attachmentsWith .firstHop,
      a.relay ≠ b.relay ∧ ∃ x ∈ p.launch.processesOf .publishers,
        ∃ y ∈ p.launch.processesOf .publishers,
          x.node = a.host ∧ y.node = b.host ∧ x.probe = y.probe := by
  obtain ⟨p, compiled, topology⟩ := compile_crowd
  have publishers : p.topology.attachmentsWith .firstHop =
      [⟨"v", 0, .firstHop, 257⟩, ⟨"v", 256, .firstHop, 258⟩] := by
    rw [topology, Topology.attachmentsWith, attachments_crowd]
    rfl
  have probes := probes_of_compile compiled
  rw [publishers] at probes
  obtain ⟨x, others, first, rest, listed⟩ := List.forall₂_cons_left_iff.mp probes
  obtain ⟨y, _, second, _, rfl⟩ := List.forall₂_cons_left_iff.mp rest
  refine ⟨p, compiled, _, publishers ▸ List.mem_cons_self, _,
    publishers ▸ List.mem_cons_of_mem _ List.mem_cons_self, by decide, x, ?_, y, ?_, first.1,
    second.1, ?_⟩
  · rw [listed]
    exact List.mem_cons_self
  · rw [listed]
    exact List.mem_cons_of_mem _ List.mem_cons_self
  · have octet := crowdSpace.relayOctet_inj.mpr (show 0 % 256 = 256 % 256 from rfl)
    rw [first.2, second.2]
    exact congrArg (Probe.trackAnnounced _ · "v") octet

end NetworkPlan

end RelayMesh
