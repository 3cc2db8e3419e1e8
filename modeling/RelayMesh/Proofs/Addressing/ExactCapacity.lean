import RelayMesh.Proofs.Addressing.Exhaustion

namespace RelayMesh

open Checked (bind_ok bind_error)

namespace AddressSpace

variable {s : AddressSpace} {t : Topology} {cls : AddressClass}

/-- The first class, in the order of allocation, that has less than the topology needs of it. -/
def firstShort? (s : AddressSpace) (t : Topology) : Option AddressClass :=
  if s.capacity .relayIdentity < t.numRelays then some .relayIdentity
  else if s.capacity .clientAttachment < t.attachments.length then some .clientAttachment
  else if s.capacity .meshBackbone < t.pairCount then some .meshBackbone
  else none

theorem checkEnough_bind {α : Type} {required available : Nat}
    (next : Unit → Except AllocationError α) : (checkEnough cls required available >>= next) =
      if available < required then .error (.exhausted cls required available) else next () := by
  unfold checkEnough
  split <;> rfl

/-- Apart from the control plane, the check says that a class is exhausted exactly if it is the
first one that has too little. -/
theorem checkCapacity_exhausted_iff (other : cls ≠ .controlPlane) :
    (∃ required available, s.checkCapacity t = .error (.exhausted cls required available)) ↔
      s.firstShort? t = some cls := by
  simp only [checkCapacity, checkEnough_bind, firstShort?]
  split_ifs
  all_goals simp [other, @eq_comm _ _ cls]

theorem draw_error {i : Nat} {e : AllocationError} (failed : s.draw cls i = .error e) :
    e = .notEnoughAddresses cls := by
  unfold draw at failed
  split at failed
  · contradiction
  · exact (Except.error.inj failed).symm

theorem drawLink_error {i : Nat} {e : AllocationError} (failed : s.drawLink cls i = .error e) :
    e = .notEnoughAddresses cls := by
  have address_error {found : Option Address} {e : AllocationError}
      (failed : address cls found = .error e) : e = .notEnoughAddresses cls := by
    cases found with
    | none => exact (Except.error.inj failed).symm
    | some a => contradiction
  rcases bind_error.mp failed with failed | ⟨sub, _, failed⟩
  · exact draw_error failed
  · rcases bind_error.mp failed with failed | ⟨x, _, failed⟩
    · exact address_error failed
    · rcases bind_error.mp failed with failed | ⟨y, _, impossible⟩
      · exact address_error failed
      · cases impossible

theorem drawLinks_error {ω κ : Type} {xs : List ω} {make : ω → Subnet × Address × Address → κ}
    (short : s.capacity cls < xs.length) :
    (xs.zipIdx.mapM fun (x, i) => do return make x (← s.drawLink cls i)) =
      .error (.notEnoughAddresses cls) := by
  have member : (xs[s.capacity cls], s.capacity cls) ∈ xs.zipIdx :=
    List.mk_mem_zipIdx_iff_getElem?.mpr (List.getElem?_eq_getElem short)
  refine Checked.mapM_error_of_only ?_ member ?_
  · rintro ⟨x, i⟩ e failed
    rcases bind_error.mp failed with failed | ⟨_, _, impossible⟩
    · exact drawLink_error failed
    · cases impossible
  · rintro link made
    obtain ⟨⟨sub, x, y⟩, linked, _⟩ := bind_ok.mp made
    have inside := draw_ok_iff.mp ⟨sub, draw_of_drawLink linked⟩
    exact Nat.lt_irrefl _ inside

theorem allocateIdentities_error (short : s.capacity .relayIdentity < t.numRelays) :
    s.allocateIdentities t = .error (.notEnoughAddresses .relayIdentity) := by
  have member : s.capacity .relayIdentity ∈ t.relayIds := List.mem_range.mpr short
  refine Checked.mapM_error_of_only ?_ member ?_
  · exact fun _ _ failed => draw_error failed
  · rw [draw_error_iff.mpr (Nat.le_refl _)]
    simp

theorem allocateAttachments_error
    (short : s.capacity .clientAttachment < (attachmentOrder t).length) :
    s.allocateAttachments t = .error (.notEnoughAddresses .clientAttachment) :=
  (s.allocateAttachments_eq t).trans (drawLinks_error short)

theorem allocateBackbone_error (short : s.capacity .meshBackbone < t.pairCount) :
    s.allocateBackbone t = .error (.notEnoughAddresses .meshBackbone) :=
  (s.allocateBackbone_eq t).trans (drawLinks_error (length_allPairs t ▸ short))

theorem capacity_of_checkLength (fits : s.checkLength cls = .ok ()) (split : cls ≠ .relayIdentity) :
    s.capacity cls = 2 ^ (s.subnetLength cls - (s.configured cls).length) := by
  unfold checkLength at fits
  split at fits
  · rename_i within
    have count : (s.range cls).subnetCount (s.subnetLength cls) =
        2 ^ (s.subnetLength cls - (s.configured cls).length) := if_pos within
    cases cls with
    | relayIdentity => contradiction
    | meshBackbone | clientAttachment | controlPlane => exact count
  · contradiction

theorem capacity_of_check (accepted : s.check = .ok ()) (split : cls ≠ .relayIdentity) :
    s.capacity cls = 2 ^ (s.subnetLength cls - (s.configured cls).length) := by
  simp only [check, bind_ok] at accepted
  obtain ⟨_, _, _, _, _, _, _, attachment, _, backbone, control⟩ := accepted
  cases cls with
  | relayIdentity => contradiction
  | meshBackbone => exact capacity_of_checkLength backbone split
  | clientAttachment => exact capacity_of_checkLength attachment split
  | controlPlane => exact capacity_of_checkLength control split

theorem enough_of_firstShort? (enough : s.firstShort? t = none) :
    t.numRelays ≤ s.capacity .relayIdentity ∧
      t.attachments.length ≤ s.capacity .clientAttachment ∧
      t.pairCount ≤ s.capacity .meshBackbone := by
  unfold firstShort? at enough
  split_ifs at enough with identities attachments backbone
  exact ⟨Nat.le_of_not_lt identities, Nat.le_of_not_lt attachments, Nat.le_of_not_lt backbone⟩

end AddressSpace

namespace AddressBuilder

open AddressSpace

section Parts

variable {s : AddressSpace} {t : Topology} {cls : AddressClass} (accepted : s.check = .ok ())
  (placed : ∀ a ∈ t.attachments, a.relay < t.numRelays)
include accepted placed

theorem run_parts_ok (enough : s.firstShort? t = none) :
    ∃ handed, (parts t).run (fresh s) = .ok (handed, spent s t) := by
  obtain ⟨relays, attached, pairs⟩ := enough_of_firstShort? enough
  obtain ⟨backbonePaired, attachmentPaired⟩ := checkPairRoom_of_check accepted
  obtain ⟨identities, hi⟩ := allocateIdentities_ok relays
  obtain ⟨attachments, ha⟩ :=
    allocateAttachments_ok attachmentPaired (length_attachmentOrder placed ▸ attached)
  obtain ⟨backbone, hb⟩ := allocateBackbone_ok backbonePaired pairs
  refine ⟨(identities, attachments, backbone), ?_⟩
  rw [run_parts, hi, ha, hb]
  rfl

theorem run_parts_error (short : s.firstShort? t = some cls) :
    (parts t).run (fresh s) = .error (.notEnoughAddresses cls) := by
  obtain ⟨_, attachmentPaired⟩ := checkPairRoom_of_check accepted
  rw [run_parts]
  unfold firstShort? at short
  split_ifs at short with identities attachments backbone
  · obtain rfl := Option.some.inj short
    rw [allocateIdentities_error identities]
    rfl
  · obtain rfl := Option.some.inj short
    obtain ⟨_, hi⟩ := allocateIdentities_ok (Nat.le_of_not_lt identities)
    rw [hi, allocateAttachments_error (length_attachmentOrder placed ▸ attachments)]
    rfl
  · obtain rfl := Option.some.inj short
    obtain ⟨_, hi⟩ := allocateIdentities_ok (Nat.le_of_not_lt identities)
    obtain ⟨_, ha⟩ := allocateAttachments_ok attachmentPaired
      (length_attachmentOrder placed ▸ Nat.le_of_not_lt attachments)
    rw [hi, ha, allocateBackbone_error backbone]
    rfl

theorem run_parts_error_iff : (parts t).run (fresh s) = .error (.notEnoughAddresses cls) ↔
    s.firstShort? t = some cls := by
  constructor
  · intro failed
    cases first : s.firstShort? t with
    | none =>
      obtain ⟨_, done⟩ := run_parts_ok accepted placed first
      rw [done] at failed
      contradiction
    | some own =>
      rw [run_parts_error accepted placed first] at failed
      cases failed
      rfl
  · exact run_parts_error accepted placed

end Parts

end AddressBuilder

namespace AddressSpace

open AddressBuilder (fresh next nextLink parts Exhausts)

structure CapacityExact (s : AddressSpace) : Prop where
  /-- They are known from the lengths of the ranges and of the subnets alone. -/
  subnets (cls : AddressClass) (split : cls ≠ .relayIdentity) :
    s.capacity cls = 2 ^ (s.subnetLength cls - (s.configured cls).length)
  hosts : s.capacity .relayIdentity = Network.hostCount (s.configured .relayIdentity).length
  /-- A fresh builder hands out so many subnets of a class before it has none left. They are all
  networks that the class has, in ascending order. -/
  exhausted (cls : AddressClass) : ∃ subs b, Exhausts cls (fresh s) subs b ∧
    (∀ subs' b', Exhausts cls (fresh s) subs' b' → subs' = subs ∧ b' = b) ∧
    subs.length = s.capacity cls ∧
    (subs.Pairwise fun x y => x.network.base < y.network.base) ∧
    ∀ net, net ∈ subs.map (·.network) ↔ s.Offers cls net
  /-- Whatever was handed out before, each subnet for a link has two hosts. -/
  linked {cls : AddressClass} (links : cls = .meshBackbone ∨ cls = .clientAttachment)
    {b b' : AddressBuilder} (own : b.space = s) {sub : Subnet}
    (handed : (next cls).run b = .ok (sub, b')) :
    ∃ x y, (nextLink cls).run b = .ok ((sub, x, y), b') ∧ sub.network.FirstHosts x y
  /-- What the check admits does not run out of identities, attachments or the backbone. -/
  admitted {policy : DuplicateEdges} {doc : Document} {t : Topology}
    (loaded : Topology.load policy doc = .ok t) (admits : s.checkCapacity t = .ok ()) :
    ∃ handed b, (parts t).run (fresh s) = .ok (handed, b)
  /-- What it refuses for one of these classes runs out of the class, and nothing else does. -/
  refused {policy : DuplicateEdges} {doc : Document} {t : Topology}
    (loaded : Topology.load policy doc = .ok t) {cls : AddressClass} (other : cls ≠ .controlPlane) :
    (∃ required available, s.checkCapacity t = .error (.exhausted cls required available)) ↔
      (parts t).run (fresh s) = .error (.notEnoughAddresses cls)
  sequential (t : Topology) : (AddressBuilder.build t).run' (fresh s) = s.build t

theorem capacity_exact {s : AddressSpace} (accepted : s.check = .ok ()) : s.CapacityExact where
  subnets cls split := capacity_of_check accepted split
  hosts := rfl
  exhausted cls := by
    obtain ⟨subs, b, run⟩ := AddressBuilder.exists_exhausts (fresh s) cls
    exact ⟨subs, b, run, fun _ _ other => other.unique run, run.length_eq, run.all⟩
  linked {cls} links {b b'} own {sub} handed := by
    subst own
    obtain ⟨backbone, attachment⟩ := checkPairRoom_of_check accepted
    rcases links with rfl | rfl
    · exact AddressBuilder.nextLink_of_next backbone handed
    · exact AddressBuilder.nextLink_of_next attachment handed
  admitted {_ _ t} loaded admits := by
    have placed (a : Attachment) (member : a ∈ t.attachments) :=
      (Topology.attachments_of_load loaded member).1
    have enough : s.firstShort? t = none := by
      have room := checkCapacity_ok.mp admits
      rw [firstShort?, if_neg (Nat.not_lt_of_le room.relays),
        if_neg (Nat.not_lt_of_le room.attachments), if_neg (Nat.not_lt_of_le room.backbone)]
    obtain ⟨handed, done⟩ := AddressBuilder.run_parts_ok accepted placed enough
    exact ⟨handed, _, done⟩
  refused {_ _ t} loaded cls other := by
    have placed (a : Attachment) (member : a ∈ t.attachments) :=
      (Topology.attachments_of_load loaded member).1
    rw [checkCapacity_exhausted_iff other, AddressBuilder.run_parts_error_iff accepted placed]
  sequential t := by
    change Prod.fst <$> (AddressBuilder.build t).run (fresh s) = s.build t
    rw [AddressBuilder.run_build]
    cases s.build t <;> rfl

def edgeSpace : AddressSpace where
  backboneRange := ⟨.ofOctets 255 255 255 252, 30, by decide⟩
  backboneLength := 31
  identityRange := ⟨.ofOctets 0 0 0 0, 31, by decide⟩
  attachmentRange := ⟨.ofOctets 0 0 0 2, 31, by decide⟩
  attachmentLength := 31
  controlRange := ⟨.ofOctets 0 0 0 4, 30, by decide⟩
  controlLength := 32
  uplinkPeerOffset := 2

theorem capacity_exact_edgeSpace :
    edgeSpace.check = .ok () ∧ edgeSpace.CapacityExact ∧
      (∀ cls n, (cls, n) ∈ [(AddressClass.meshBackbone, 2), (.relayIdentity, 2),
        (.clientAttachment, 1), (.controlPlane, 4)] →
          ∃ subs b, Exhausts cls (fresh edgeSpace) subs b ∧ subs.length = n) ∧
      edgeSpace.checkCapacity .square = .error (.exhausted .relayIdentity 4 2) ∧
      (parts .square).run (fresh edgeSpace) = .error (.notEnoughAddresses .relayIdentity) := by
  have accepted : edgeSpace.check = .ok () := by decide
  have exact : edgeSpace.CapacityExact := capacity_exact accepted
  have refused : edgeSpace.checkCapacity .square = .error (.exhausted .relayIdentity 4 2) := by
    decide
  refine ⟨accepted, exact, ?_, refused,
    (exact.refused Topology.load_square (by decide)).mp ⟨4, 2, refused⟩⟩
  intro cls n listed
  have number : edgeSpace.capacity cls = n := by
    have each : ∀ entry ∈ [(AddressClass.meshBackbone, 2), (.relayIdentity, 2),
        (.clientAttachment, 1), (.controlPlane, 4)], edgeSpace.capacity entry.1 = entry.2 := by
      decide
    exact each _ listed
  obtain ⟨subs, b, run, _, length, _⟩ := exact.exhausted cls
  exact ⟨subs, b, run, length.trans number⟩

end AddressSpace

end RelayMesh
