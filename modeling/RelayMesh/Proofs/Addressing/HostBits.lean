import RelayMesh.NetworkPlan
import RelayMesh.Proofs.Network.Range

namespace RelayMesh

namespace AddressSpace

/-- The ranges of each class stand for the same block, which is split in the same way. -/
structure SameBlocks (s u : AddressSpace) : Prop where
  length : ∀ cls, (s.configured cls).length = (u.configured cls).length
  base : ∀ cls, (s.configured cls).base = (u.configured cls).base
  subnetLength : ∀ cls, s.subnetLength cls = u.subnetLength cls
  uplinkPeerOffset : s.uplinkPeerOffset = u.uplinkPeerOffset

/-- No check and no allocation tells the spaces apart: all give the same answers, and fail with the
same errors, down to the ranges and numbers that the errors report. -/
structure AllocatesLike (s u : AddressSpace) : Prop where
  checkDisjoint : s.checkDisjoint = u.checkDisjoint
  check : s.check = u.check
  capacity : ∀ cls, s.capacity cls = u.capacity cls
  network? : ∀ cls index, s.network? cls index = u.network? cls index
  build : ∀ t, s.build t = u.build t
  allocate : ∀ t, s.allocate t = u.allocate t
  compile : ∀ (c : Configuration) doc, NetworkPlan.compile { c with addressing := s } doc =
    NetworkPlan.compile { c with addressing := u } doc

def clearing (s : AddressSpace) (chosen : AddressClass → Bool) : AddressSpace :=
  let cleared cls := if chosen cls then (s.configured cls).truncated else s.configured cls
  { s with
    backboneRange := cleared .meshBackbone
    identityRange := cleared .relayIdentity
    attachmentRange := cleared .clientAttachment
    controlRange := cleared .controlPlane }

/-- The settings of a space, given one after the other to a space that exists already. -/
def overriding (s start : AddressSpace) : AddressSpace :=
  ((((start.withBackbone s.backboneRange s.backboneLength).withIdentity s.identityRange)
    |>.withAttachment s.attachmentRange s.attachmentLength)
    |>.withControl s.controlRange s.controlLength)
    |>.withUplinkPeerOffset s.uplinkPeerOffset

theorem configured_clearing (s : AddressSpace) (chosen : AddressClass → Bool) (cls : AddressClass) :
    (s.clearing chosen).configured cls =
      if chosen cls then (s.configured cls).truncated else s.configured cls := by
  cases cls <;> rfl

theorem overriding_eq (s start : AddressSpace) :
    s.overriding start = s.clearing fun _ => true := rfl

theorem sameBlocks_clearing (s : AddressSpace) (chosen : AddressClass → Bool) :
    s.SameBlocks (s.clearing chosen) where
  length cls := by
    rw [configured_clearing]
    split
    · rw [Network.length_truncated]
    · rfl
  base cls := by
    rw [configured_clearing]
    split
    · rw [Network.base_truncated]
    · rfl
  subnetLength cls := by cases cls <;> rfl
  uplinkPeerOffset := rfl

namespace SameBlocks

variable {s u : AddressSpace} (same : s.SameBlocks u)
include same

theorem range (cls : AddressClass) : s.range cls = u.range cls :=
  Network.truncated_eq (same.length cls) (same.base cls)

theorem checkDisjoint : s.checkDisjoint = u.checkDisjoint := by
  simp only [AddressSpace.checkDisjoint, same.range]

theorem check : s.check = u.check := by
  simp only [AddressSpace.check, checkPairRoom, checkLength, same.checkDisjoint, same.range,
    same.subnetLength]

theorem capacity (cls : AddressClass) : s.capacity cls = u.capacity cls := by
  cases cls <;> simp only [AddressSpace.capacity, same.range, same.subnetLength]

theorem checkCapacity (t : Topology) : s.checkCapacity t = u.checkCapacity t := by
  simp only [AddressSpace.checkCapacity, same.capacity, same.subnetLength, same.uplinkPeerOffset]

theorem network? (cls : AddressClass) (index : Nat) : s.network? cls index = u.network? cls index := by
  cases cls <;> simp only [AddressSpace.network?, same.range, same.subnetLength]

theorem draw : s.draw = u.draw := by
  funext cls index
  rw [AddressSpace.draw, AddressSpace.draw, same.network?]

theorem drawLink : s.drawLink = u.drawLink := by
  funext cls index
  rw [AddressSpace.drawLink, AddressSpace.drawLink, same.draw]

theorem build (t : Topology) : s.build t = u.build t := by
  simp only [AddressSpace.build, allocateIdentities, allocateAttachments, allocateBackbone,
    allocateControl, same.checkCapacity, same.draw, same.drawLink, same.uplinkPeerOffset]

theorem allocate (t : Topology) : s.allocate t = u.allocate t := by
  rw [AddressSpace.allocate, AddressSpace.allocate, same.check, same.build]

theorem allocatesLike : s.AllocatesLike u where
  checkDisjoint := same.checkDisjoint
  check := same.check
  capacity := same.capacity
  network? := same.network?
  build := same.build
  allocate := same.allocate
  compile c doc := by simp only [NetworkPlan.compile, Configuration.delays, same.allocate]

end SameBlocks

theorem hostBits_ignored (s : AddressSpace) :
    (∀ chosen, s.AllocatesLike (s.clearing chosen)) ∧
      ∀ start, s.AllocatesLike (s.overriding start) :=
  ⟨fun chosen => (s.sameBlocks_clearing chosen).allocatesLike, fun start => by
    rw [overriding_eq]
    exact (s.sameBlocks_clearing _).allocatesLike⟩

end AddressSpace

end RelayMesh
