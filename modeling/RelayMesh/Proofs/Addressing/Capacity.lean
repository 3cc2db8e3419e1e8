import RelayMesh.Proofs.Addressing.Allocation
import RelayMesh.Proofs.Network.Enumeration
import RelayMesh.Proofs.Topology.Loading
import RelayMesh.Proofs.Topology.Pairs

/-! When the check of capacities suffices. It counts the hosts of a subnet, while the control plane
takes addresses by their distance from the base; the two agree for all subnets but those of exactly
two addresses, both of which are hosts, although only one of them has a positive distance. -/

namespace RelayMesh

namespace Network

theorem subnet?_of_lt {net : Network} {length index : Nat}
    (below : index < net.subnetCount length) : ∃ sub, net.subnet? length index = some sub := by
  have fits : net.length ≤ length ∧ length ≤ 32 := by
    by_contra misfit
    rw [subnetCount, if_neg misfit] at below
    exact Nat.not_lt_zero index below
  unfold subnet?
  rw [dif_pos fits, if_pos below]
  exact ⟨_, rfl⟩

theorem host?_of_lt {net : Network} {index : Nat} (below : index < hostCount net.length) :
    ∃ a, net.host? index = some a := by
  unfold host?
  rw [if_pos below]
  exact ⟨_, rfl⟩

/-- In a subnet of four addresses or more a positive distance up to the number of hosts leads to a
host. -/
theorem atOffset?_of_le {net : Network} {offset : Nat} (positive : 0 < offset)
    (within : offset ≤ hostCount net.length) (wide : net.length ≤ 30) :
    ∃ a, net.atOffset? offset = some a := by
  have room := host_room (show offset - 1 < hostCount net.length by omega)
  have inner := room.1 (by omega)
  unfold atOffset?
  rw [if_pos ⟨by rw [size_eq]; omega, .inr (by rw [size_eq]; omega)⟩]
  exact ⟨_, rfl⟩

theorem atOffset?_of_pair {net : Network} {offset : Nat} (pair : net.length = 31)
    (beyond : 2 ≤ offset) : net.atOffset? offset = none := by
  have size : net.size = 2 := by
    rw [size_eq, pair]
    rfl
  unfold atOffset?
  rw [if_neg]
  omega

end Network

namespace AddressSpace

open Checked (bind_ok bind_error pure_ok)

theorem checkEnough_spec {cls : AddressClass} {required available : Nat} :
    checkEnough cls required available = .ok () ↔ required ≤ available := by
  unfold checkEnough
  split
  · rename_i short
    exact ⟨fun failed => by contradiction, fun enough => absurd short (Nat.not_lt_of_le enough)⟩
  · rename_i enough
    exact ⟨fun _ => Nat.le_of_not_lt enough, fun _ => rfl⟩

/-- What a topology needs of each class, and of the subnets of the control plane. -/
structure Room (s : AddressSpace) (t : Topology) : Prop where
  relays : t.numRelays ≤ s.capacity .relayIdentity
  attachments : t.attachments.length ≤ s.capacity .clientAttachment
  backbone : t.pairCount ≤ s.capacity .meshBackbone
  control : 2 ≤ s.capacity .controlPlane
  segment : t.numRelays + 1 ≤ Network.hostCount (s.subnetLength .controlPlane)
  uplink : s.uplinkPeerOffset.toNat ≤ Network.hostCount (s.subnetLength .controlPlane)
  apart : 2 ≤ s.uplinkPeerOffset.toNat

theorem checkCapacity_ok {s : AddressSpace} {t : Topology} :
    s.checkCapacity t = .ok () ↔ s.Room t := by
  simp only [checkCapacity, bind_ok]
  constructor
  · rintro ⟨_, relays, _, attachments, _, backbone, _, control, _, segment, last⟩
    split at last
    · contradiction
    · rename_i offset
      exact ⟨checkEnough_spec.mp relays, checkEnough_spec.mp attachments,
        checkEnough_spec.mp backbone, checkEnough_spec.mp control, checkEnough_spec.mp segment,
        by omega, by omega⟩
  · rintro ⟨relays, attachments, backbone, control, segment, uplink, apart⟩
    refine ⟨(), checkEnough_spec.mpr relays, (), checkEnough_spec.mpr attachments, (),
      checkEnough_spec.mpr backbone, (), checkEnough_spec.mpr control, (),
      checkEnough_spec.mpr segment, ?_⟩
    rw [if_neg (by omega)]

section Draws

variable {s : AddressSpace}

theorem draw_of_lt {cls : AddressClass} {i : Nat} (below : i < s.capacity cls) :
    ∃ sub, s.draw cls i = .ok sub ∧ sub.network.length = s.subnetLength cls := by
  have drawn : ∃ network, s.network? cls i = some network ∧
      network.length = s.subnetLength cls := by
    cases cls with
    | relayIdentity =>
      obtain ⟨a, found⟩ := Network.host?_of_lt below
      exact ⟨⟨a, 32, by decide⟩, Option.map_eq_some_iff.mpr ⟨a, found, rfl⟩, rfl⟩
    | _ =>
      obtain ⟨network, found⟩ := Network.subnet?_of_lt below
      exact ⟨network, found, (Network.subnet?_spec found).1⟩
  obtain ⟨network, found, length⟩ := drawn
  refine ⟨⟨cls, i, network⟩, ?_, length⟩
  rw [draw, found]

theorem capacity_le (s : AddressSpace) (cls : AddressClass) : s.capacity cls ≤ UInt32.size := by
  cases cls with
  | relayIdentity => exact Network.hostCount_le _
  | meshBackbone | clientAttachment | controlPlane => exact Network.subnetCount_le _ _

theorem index_lt_of_network? {cls : AddressClass} {index : Nat} {network : Network}
    (found : s.network? cls index = some network) : index < s.capacity cls := by
  cases cls with
  | relayIdentity =>
    obtain ⟨a, host, _⟩ := Option.map_eq_some_iff.mp found
    exact Network.lt_hostCount host
  | meshBackbone | clientAttachment | controlPlane => exact Network.lt_subnetCount found

theorem index_lt_of_drawn {sub : Subnet} (drawn : sub.DrawnFrom s) :
    sub.index < s.capacity sub.cls :=
  index_lt_of_network? drawn

theorem two_le_hostCount {cls : AddressClass} (checked : s.checkPairRoom cls = .ok ()) :
    2 ≤ Network.hostCount (s.subnetLength cls) := by
  unfold checkPairRoom at checked
  split at checked
  · contradiction
  · omega

theorem drawLink_of_lt {cls : AddressClass} {i : Nat} (paired : s.checkPairRoom cls = .ok ())
    (below : i < s.capacity cls) : ∃ link, s.drawLink cls i = .ok link := by
  obtain ⟨sub, drawn, length⟩ := draw_of_lt below
  have hosts := two_le_hostCount paired
  rw [← length] at hosts
  obtain ⟨first, hfirst⟩ :=
    Network.host?_of_lt (show 0 < Network.hostCount sub.network.length by omega)
  obtain ⟨second, hsecond⟩ :=
    Network.host?_of_lt (show 1 < Network.hostCount sub.network.length by omega)
  refine ⟨(sub, first, second), ?_⟩
  simp only [drawLink, drawn, hfirst, hsecond, address, bind, Except.bind, pure, Except.pure]

theorem drawLinks_ok {ω κ : Type} {cls : AddressClass} {xs : List ω}
    {make : ω × Nat → Except AllocationError κ} (paired : s.checkPairRoom cls = .ok ())
    (enough : xs.length ≤ s.capacity cls)
    (each : ∀ x i link, s.drawLink cls i = .ok link → ∃ l, make (x, i) = .ok l) :
    ∃ links, xs.zipIdx.mapM make = .ok links := by
  apply Checked.mapM_ok_of_forall
  rintro ⟨x, i⟩ member
  have below := List.snd_lt_of_mem_zipIdx member
  obtain ⟨link, drawn⟩ := drawLink_of_lt paired (show i < s.capacity cls by omega)
  exact each x i link drawn

end Draws

theorem checkPairRoom_of_check {s : AddressSpace} (accepted : s.check = .ok ()) :
    s.checkPairRoom .meshBackbone = .ok () ∧ s.checkPairRoom .clientAttachment = .ok () := by
  simp only [check, bind_ok] at accepted
  obtain ⟨_, _, _, backbone, _, attachment, _⟩ := accepted
  exact ⟨backbone, attachment⟩

section Parts

variable {s : AddressSpace} {t : Topology}

theorem allocateIdentities_ok (enough : t.numRelays ≤ s.capacity .relayIdentity) :
    ∃ identities, s.allocateIdentities t = .ok identities := by
  apply Checked.mapM_ok_of_forall
  intro r member
  have below := List.mem_range.mp member
  obtain ⟨sub, drawn, _⟩ := draw_of_lt (Nat.lt_of_lt_of_le below enough)
  exact ⟨sub, drawn⟩

theorem length_attachmentOrder (placed : ∀ a ∈ t.attachments, a.relay < t.numRelays) :
    (attachmentOrder t).length = t.attachments.length := by
  rw [(attachmentOrder_perm placed).length_eq, List.length_zipIdx]

theorem allocateAttachments_ok (paired : s.checkPairRoom .clientAttachment = .ok ())
    (enough : (attachmentOrder t).length ≤ s.capacity .clientAttachment) :
    ∃ links, s.allocateAttachments t = .ok links := by
  refine drawLinks_ok paired enough ?_
  rintro ⟨a, place⟩ i ⟨sub, x, y⟩ drawn
  exact ⟨_, bind_ok.mpr ⟨_, drawn, rfl⟩⟩

theorem length_allPairs (t : Topology) : t.allPairs.length = t.pairCount :=
  length_pairsBelow t.numRelays

theorem allocateBackbone_ok (paired : s.checkPairRoom .meshBackbone = .ok ())
    (enough : t.pairCount ≤ s.capacity .meshBackbone) :
    ∃ links, s.allocateBackbone t = .ok links := by
  refine drawLinks_ok paired (length_allPairs t ▸ enough) ?_
  rintro ⟨a, b⟩ i ⟨sub, x, y⟩ drawn
  exact ⟨_, bind_ok.mpr ⟨_, drawn, rfl⟩⟩

variable (room : s.Room t)
include room

theorem allocateControl_ok (wide : s.subnetLength .controlPlane ≤ 30) :
    ∃ c, s.allocateControl t = .ok c := by
  have enough := room.control
  have segmentRoom := room.segment
  obtain ⟨uplink, drawnUplink, uplinkLength⟩ :=
    draw_of_lt (show 0 < s.capacity .controlPlane by omega)
  obtain ⟨segment, drawnSegment, segmentLength⟩ :=
    draw_of_lt (show 1 < s.capacity .controlPlane by omega)
  have reach {sub : Subnet} (length : sub.network.length = s.subnetLength .controlPlane)
      {offset : Nat} (positive : 0 < offset)
      (inside : offset ≤ Network.hostCount (s.subnetLength .controlPlane)) :
      ∃ a, sub.network.atOffset? offset = some a :=
    Network.atOffset?_of_le positive (length ▸ inside) (length ▸ wide)
  have apart : 0 < s.uplinkPeerOffset.toNat := Nat.lt_of_lt_of_le (by decide) room.apart
  obtain ⟨own, hown⟩ := reach uplinkLength Nat.zero_lt_one (by omega)
  obtain ⟨peer, hpeer⟩ := reach uplinkLength apart room.uplink
  obtain ⟨control, hcontrol⟩ := reach segmentLength Nat.zero_lt_one (by omega)
  obtain ⟨relays, hrelays⟩ : ∃ relays, t.relayIds.mapM (fun r =>
      address .controlPlane (segment.network.atOffset? (r + 2))) = .ok relays := by
    apply Checked.mapM_ok_of_forall
    intro r member
    have below := List.mem_range.mp member
    obtain ⟨a, found⟩ := reach segmentLength (show 0 < r + 2 by omega) (by omega)
    exact ⟨a, by rw [found]; rfl⟩
  refine ⟨⟨t.control, uplink, own, peer, segment, control, relays⟩, ?_⟩
  simp only [allocateControl, bind_ok, pure_ok]
  exact ⟨uplink, drawnUplink, own, by rw [hown]; rfl, peer, by rw [hpeer]; rfl, segment,
    drawnSegment, control, by rw [hcontrol]; rfl, relays, hrelays, rfl⟩

theorem allocateControl_pair (pair : s.subnetLength .controlPlane = 31) :
    s.allocateControl t = .error (.notEnoughAddresses .controlPlane) := by
  have enough := room.control
  obtain ⟨uplink, drawn, length⟩ := draw_of_lt (show 0 < s.capacity .controlPlane by omega)
  have peer := Network.atOffset?_of_pair (length.trans pair) room.apart
  simp only [allocateControl, drawn]
  cases own : uplink.network.atOffset? 1 with
  | none => simp only [own, address, bind, Except.bind]
  | some a => simp only [own, peer, address, bind, Except.bind]

end Parts

def NeverShort (x : Except AllocationError Unit) : Prop :=
  ∀ cls, x ≠ .error (.notEnoughAddresses cls)

theorem NeverShort.bind {x y : Except AllocationError Unit} (first : NeverShort x)
    (second : NeverShort y) : NeverShort (x >>= fun _ => y) := by
  intro cls failed
  rcases bind_error.mp failed with failed | ⟨_, _, failed⟩
  · exact first cls failed
  · exact second cls failed

theorem neverShort_checkDisjoint (s : AddressSpace) : NeverShort s.checkDisjoint := by
  intro cls
  unfold checkDisjoint
  split <;> simp

theorem neverShort_checkPairRoom (s : AddressSpace) (cls : AddressClass) :
    NeverShort (s.checkPairRoom cls) := by
  intro other
  unfold checkPairRoom
  split <;> simp

theorem neverShort_checkLength (s : AddressSpace) (cls : AddressClass) :
    NeverShort (s.checkLength cls) := by
  intro other
  unfold checkLength
  split <;> simp

theorem neverShort_checkEnough (cls : AddressClass) (required available : Nat) :
    NeverShort (checkEnough cls required available) := by
  intro other
  unfold checkEnough
  split <;> simp

theorem neverShort_check (s : AddressSpace) : NeverShort s.check :=
  (neverShort_checkDisjoint s).bind <| (neverShort_checkPairRoom s _).bind <|
    (neverShort_checkPairRoom s _).bind <| (neverShort_checkLength s _).bind <|
    (neverShort_checkLength s _).bind <| neverShort_checkLength s _

theorem neverShort_checkCapacity (s : AddressSpace) (t : Topology) :
    NeverShort (s.checkCapacity t) := by
  refine (neverShort_checkEnough _ _ _).bind <| (neverShort_checkEnough _ _ _).bind <|
    (neverShort_checkEnough _ _ _).bind <| (neverShort_checkEnough _ _ _).bind <|
    (neverShort_checkEnough _ _ _).bind ?_
  intro cls
  split <;> simp

theorem controlLength_le {s : AddressSpace} {t : Topology} (room : s.Room t) :
    s.subnetLength .controlPlane ≤ 31 := by
  have hosts : 2 ≤ Network.hostCount (s.subnetLength .controlPlane) :=
    Nat.le_trans room.apart room.uplink
  unfold Network.hostCount at hosts
  split at hosts
  · omega
  · split at hosts
    · omega
    · split at hosts <;> omega

/-- The check of capacities is all that can fail: what passes it is built, what fails fails in it,
and no class runs out of addresses afterwards. -/
structure Sufficient (s : AddressSpace) (t : Topology) : Prop where
  builds : s.check = .ok () → s.checkCapacity t = .ok () → ∃ p, s.build t = .ok p
  fails : s.check = .ok () → ∀ e, s.build t = .error e → s.checkCapacity t = .error e
  never_short : ∀ cls, s.allocate t ≠ .error (.notEnoughAddresses cls)

section Built

variable {policy : DuplicateEdges} {doc : Document} {s : AddressSpace} {t : Topology}

theorem build_eq_control (loaded : Topology.load policy doc = .ok t) (accepted : s.check = .ok ())
    (room : s.Room t) : ∃ identities attachments backbone, s.build t =
      (s.allocateControl t).map fun c => ⟨identities, attachments, backbone, c⟩ := by
  obtain ⟨backbonePaired, attachmentPaired⟩ := checkPairRoom_of_check accepted
  have order : (attachmentOrder t).length = t.attachments.length := length_attachmentOrder
    fun a member => (Topology.attachments_of_load loaded member).1
  obtain ⟨identities, hi⟩ := allocateIdentities_ok room.relays
  obtain ⟨attachments, ha⟩ := allocateAttachments_ok attachmentPaired (order ▸ room.attachments)
  obtain ⟨backbone, hb⟩ := allocateBackbone_ok backbonePaired room.backbone
  refine ⟨identities, attachments, backbone, ?_⟩
  simp only [build, checkCapacity_ok.mpr room, hi, ha, hb, bind, Except.bind, pure, Except.pure]
  cases s.allocateControl t <;> rfl

theorem build_ok (loaded : Topology.load policy doc = .ok t) (accepted : s.check = .ok ())
    (checked : s.checkCapacity t = .ok ()) (wide : s.subnetLength .controlPlane ≠ 31) :
    ∃ p, s.build t = .ok p := by
  have room := checkCapacity_ok.mp checked
  have length := controlLength_le room
  obtain ⟨_, _, _, built⟩ := build_eq_control loaded accepted room
  obtain ⟨c, control⟩ := allocateControl_ok room (by omega)
  rw [built, control]
  exact ⟨_, rfl⟩

theorem build_pair (loaded : Topology.load policy doc = .ok t) (accepted : s.check = .ok ())
    (checked : s.checkCapacity t = .ok ()) (pair : s.subnetLength .controlPlane = 31) :
    s.build t = .error (.notEnoughAddresses .controlPlane) := by
  have room := checkCapacity_ok.mp checked
  obtain ⟨_, _, _, built⟩ := build_eq_control loaded accepted room
  rw [built, allocateControl_pair room pair]
  rfl

theorem build_of_checkCapacity_error {e : AllocationError} (failed : s.checkCapacity t = .error e) :
    s.build t = .error e := by
  unfold build
  rw [failed]
  rfl

end Built

/-- The check of capacities suffices for every topology and every space but those with a control
plane of pairs of addresses, where it lets a single relay pass. -/
theorem sufficient_iff {policy : DuplicateEdges} {doc : Document} {s : AddressSpace} {t : Topology}
    (loaded : Topology.load policy doc = .ok t) :
    s.Sufficient t ↔
      ¬ (s.check = .ok () ∧ s.checkCapacity t = .ok () ∧ s.subnetLength .controlPlane = 31) := by
  constructor
  · rintro sufficient ⟨accepted, checked, pair⟩
    obtain ⟨p, built⟩ := sufficient.builds accepted checked
    rw [build_pair loaded accepted checked pair] at built
    contradiction
  · intro wide
    have builds : s.check = .ok () → s.checkCapacity t = .ok () → ∃ p, s.build t = .ok p :=
      fun accepted checked => build_ok loaded accepted checked fun pair =>
        wide ⟨accepted, checked, pair⟩
    have fails : s.check = .ok () → ∀ e, s.build t = .error e → s.checkCapacity t = .error e := by
      intro accepted e failed
      cases checked : s.checkCapacity t with
      | ok _ =>
        obtain ⟨p, built⟩ := builds accepted checked
        rw [built] at failed
        contradiction
      | error d =>
        rw [build_of_checkCapacity_error checked] at failed
        exact congrArg Except.error (Except.error.inj failed)
    refine ⟨builds, fails, fun cls failed => ?_⟩
    rcases bind_error.mp failed with failed | ⟨_, accepted, failed⟩
    · exact neverShort_check s cls failed
    · exact neverShort_checkCapacity s t cls (fails accepted _ failed)

def loneDocument : Document :=
  .object [("nodes", .list [.text "a"])]

def lone : Topology where
  nodes := [⟨0, "a", .relay⟩, ⟨1, "api", .control⟩]
  numRelays := 1
  edges := []
  attachments := []
  control := 1

def smallestSpace : AddressSpace :=
  { AddressSpace.standard with controlLength := 30, uplinkPeerOffset := 2 }

theorem sufficient_smallestSpace :
    Topology.load .firstWins loneDocument = .ok lone ∧ smallestSpace.check = .ok () ∧
      smallestSpace.checkCapacity lone = .ok () ∧ smallestSpace.Sufficient lone :=
  have loaded : Topology.load .firstWins loneDocument = .ok lone := rfl
  ⟨loaded, by decide, by decide, (sufficient_iff loaded).mpr (by decide)⟩

def pairSpace : AddressSpace :=
  { AddressSpace.standard with controlLength := 31, uplinkPeerOffset := 2 }

/-- The check lets a single relay pass, and then there is no address for the peer of the uplink. -/
theorem not_sufficient_pairSpace :
    Topology.load .firstWins loneDocument = .ok lone ∧ pairSpace.check = .ok () ∧
      pairSpace.checkCapacity lone = .ok () ∧
      pairSpace.allocate lone = .error (.notEnoughAddresses .controlPlane) ∧
      ¬ pairSpace.Sufficient lone :=
  ⟨rfl, by decide, by decide, by decide, fun sufficient =>
    sufficient.never_short .controlPlane (by decide)⟩

end AddressSpace

end RelayMesh
