import Mathlib.Logic.Function.Basic
import RelayMesh.Proofs.Addressing.Capacity

/-! A builder that hands out the subnets of each class one after the other. Nothing but how many of
each class it handed out matters to what comes next, so that an allocation which numbers its subnets
beforehand is one of a builder that has not handed out any. -/

namespace RelayMesh

/-- The link of an attachment with its place, from what was drawn for it. -/
def AttachmentLink.ofDrawn (entry : Attachment × Nat) (drawn : Subnet × Address × Address) :
    AttachmentLink :=
  let (a, place) := entry
  let (subnet, relayAddress, hostAddress) := drawn
  ⟨place, a.track, a.role, a.relay, a.host, subnet, relayAddress, hostAddress⟩

def BackboneLink.ofDrawn (pair : NodeId × NodeId) (drawn : Subnet × Address × Address) :
    BackboneLink :=
  let (subnet, addressA, addressB) := drawn
  ⟨pair.1, pair.2, subnet, addressA, addressB⟩

namespace AddressSpace

variable (s : AddressSpace) (t : Topology)

theorem allocateAttachments_eq : s.allocateAttachments t =
    (attachmentOrder t).zipIdx.mapM fun (entry, i) => do
      return .ofDrawn entry (← s.drawLink .clientAttachment i) := rfl

theorem allocateBackbone_eq : s.allocateBackbone t =
    t.allPairs.zipIdx.mapM fun (pair, i) => do
      return .ofDrawn pair (← s.drawLink .meshBackbone i) := rfl

end AddressSpace

/-- An address space, and how many subnets of each class were handed out. -/
structure AddressBuilder where
  space : AddressSpace
  drawn : AddressClass → Nat

namespace AddressBuilder

open AddressSpace (address attachmentOrder)

abbrev Step := StateT AddressBuilder (Except AllocationError)

def fresh (s : AddressSpace) : AddressBuilder :=
  ⟨s, fun _ => 0⟩

def advance (b : AddressBuilder) (cls : AddressClass) (n : Nat) : AddressBuilder :=
  { b with drawn := Function.update b.drawn cls (b.drawn cls + n) }

def next (cls : AddressClass) : Step Subnet := fun b =>
  (·, b.advance cls 1) <$> b.space.draw cls (b.drawn cls)

/-- Hands out the next subnet of a class, together with its first two hosts. -/
def nextLink (cls : AddressClass) : Step (Subnet × Address × Address) := do
  let subnet ← next cls
  let first ← address cls (subnet.network.host? 0)
  let second ← address cls (subnet.network.host? 1)
  return (subnet, first, second)

def identities (t : Topology) : Step (List Subnet) :=
  t.relayIds.mapM fun _ => next .relayIdentity

def attachments (t : Topology) : Step (List AttachmentLink) :=
  (attachmentOrder t).mapM fun entry => do return .ofDrawn entry (← nextLink .clientAttachment)

def backbone (t : Topology) : Step (List BackboneLink) :=
  t.allPairs.mapM fun pair => do return .ofDrawn pair (← nextLink .meshBackbone)

def control (t : Topology) : Step ControlPlane := do
  let cls := AddressClass.controlPlane
  let offset := (← get).space.uplinkPeerOffset.toNat
  let uplink ← next cls
  let uplinkAddress ← address cls (uplink.network.atOffset? 1)
  let uplinkPeerAddress ← address cls (uplink.network.atOffset? offset)
  let segment ← next cls
  let controlAddress ← address cls (segment.network.atOffset? 1)
  let relayAddresses ← t.relayIds.mapM fun r => address cls (segment.network.atOffset? (r + 2))
  return ⟨t.control, uplink, uplinkAddress, uplinkPeerAddress, segment, controlAddress,
    relayAddresses⟩

def parts (t : Topology) : Step (List Subnet × List AttachmentLink × List BackboneLink) := do
  let identities ← identities t
  let attachments ← attachments t
  let backbone ← backbone t
  return (identities, attachments, backbone)

def build (t : Topology) : Step AddressPlan := do
  (← get).space.checkCapacity t
  let (identities, attachments, backbone) ← parts t
  let control ← control t
  return ⟨identities, attachments, backbone, control⟩

section Advance

variable (b : AddressBuilder) (cls : AddressClass) (m n : Nat)

@[simp] theorem space_advance : (b.advance cls n).space = b.space := rfl

@[simp] theorem drawn_advance : (b.advance cls n).drawn cls = b.drawn cls + n :=
  Function.update_self ..

@[simp] theorem drawn_advance_of_ne {other : AddressClass} (different : other ≠ cls) :
    (b.advance cls n).drawn other = b.drawn other :=
  Function.update_of_ne different ..

@[simp] theorem advance_zero : b.advance cls 0 = b := by
  rw [advance, Nat.add_zero, Function.update_eq_self]

theorem advance_advance : (b.advance cls m).advance cls n = b.advance cls (m + n) := by
  simp only [advance, Function.update_self, Function.update_idem, Nat.add_assoc]

end Advance

section Runs

variable {α β ω κ : Type} {cls : AddressClass}

theorem run_lift (x : Except AllocationError α) (b : AddressBuilder) :
    (liftM x : Step α).run b = (·, b) <$> x := by
  cases x <;> rfl

theorem run_mapM_lift (f : ω → Except AllocationError α) (xs : List ω) (b : AddressBuilder) :
    (xs.mapM fun x => (liftM (f x) : Step α)).run b = (·, b) <$> xs.mapM f := by
  induction xs with
  | nil => rfl
  | cons x xs ih =>
    simp only [List.mapM_cons, StateT.run_bind, StateT.run_pure, run_lift, ih, bind_map_left,
      map_bind, map_pure]

theorem run_next (cls : AddressClass) (b : AddressBuilder) :
    (next cls).run b = (·, b.advance cls 1) <$> b.space.draw cls (b.drawn cls) := rfl

theorem run_nextLink (cls : AddressClass) (b : AddressBuilder) :
    (nextLink cls).run b = (·, b.advance cls 1) <$> b.space.drawLink cls (b.drawn cls) := by
  simp only [nextLink, AddressSpace.drawLink, StateT.run_bind, StateT.run_pure, run_next, run_lift,
    bind_map_left, map_bind, map_pure]

theorem run_mapM {act : ω → Step κ} (numbered : AddressSpace → ω × Nat → Except AllocationError κ)
    (each : ∀ x b, (act x).run b = (·, b.advance cls 1) <$> numbered b.space (x, b.drawn cls))
    (xs : List ω) (b : AddressBuilder) :
    (xs.mapM act).run b =
      (·, b.advance cls xs.length) <$> (xs.zipIdx (b.drawn cls)).mapM (numbered b.space) := by
  induction xs generalizing b with
  | nil =>
    rw [List.mapM_nil, List.length_nil, advance_zero]
    rfl
  | cons x xs ih =>
    have rest := ih (b.advance cls 1)
    rw [space_advance, drawn_advance, advance_advance, Nat.add_comm 1] at rest
    simp only [List.mapM_cons, List.zipIdx_cons, List.length_cons, StateT.run_bind, StateT.run_pure,
      each, rest, bind_map_left, map_bind, map_pure]

theorem run_links (make : ω → Subnet × Address × Address → κ) (xs : List ω) (b : AddressBuilder) :
    (xs.mapM fun x => do return make x (← nextLink cls)).run b =
      (·, b.advance cls xs.length) <$> (xs.zipIdx (b.drawn cls)).mapM fun (x, i) => do
        return make x (← b.space.drawLink cls i) := by
  refine run_mapM (fun s (x, i) => do return make x (← s.drawLink cls i)) (fun x b => ?_) xs b
  simp only [StateT.run_bind, StateT.run_pure, run_nextLink, bind_map_left, map_bind, map_pure]

end Runs

section Stages

variable (t : Topology) (b : AddressBuilder)

theorem run_identities (unused : b.drawn .relayIdentity = 0) : (identities t).run b =
    (·, b.advance .relayIdentity t.numRelays) <$> b.space.allocateIdentities t := by
  have run := run_mapM (fun s (_, i) => s.draw .relayIdentity i)
    (fun (_ : NodeId) b => run_next .relayIdentity b) t.relayIds b
  have places : t.relayIds.zipIdx.map Prod.snd = t.relayIds := by
    rw [List.zipIdx_map_snd, Topology.relayIds, List.length_range, List.range_eq_range']
  rw [unused] at run
  change _ = _ <$> (t.relayIds.zipIdx).mapM (b.space.draw .relayIdentity ∘ Prod.snd) at run
  rw [← List.mapM_map, places, Topology.relayIds, List.length_range] at run
  exact run

theorem run_attachments (unused : b.drawn .clientAttachment = 0) : (attachments t).run b =
    (·, b.advance .clientAttachment (attachmentOrder t).length) <$>
      b.space.allocateAttachments t := by
  rw [attachments, run_links, unused, AddressSpace.allocateAttachments_eq]

theorem run_backbone (unused : b.drawn .meshBackbone = 0) : (backbone t).run b =
    (·, b.advance .meshBackbone t.allPairs.length) <$> b.space.allocateBackbone t := by
  rw [backbone, run_links, unused, AddressSpace.allocateBackbone_eq]

theorem run_control (unused : b.drawn .controlPlane = 0) : (control t).run b =
    (·, b.advance .controlPlane 2) <$> b.space.allocateControl t := by
  simp only [control, AddressSpace.allocateControl, StateT.run_bind, StateT.run_get,
    StateT.run_pure, run_next, run_lift, run_mapM_lift, drawn_advance, advance_advance,
    space_advance, unused, pure_bind, bind_map_left, map_bind, map_pure]

end Stages

def spent (s : AddressSpace) (t : Topology) : AddressBuilder :=
  (((fresh s).advance .relayIdentity t.numRelays).advance .clientAttachment
    (attachmentOrder t).length).advance .meshBackbone t.allPairs.length

theorem run_parts (s : AddressSpace) (t : Topology) : (parts t).run (fresh s) = (do
    let identities ← s.allocateIdentities t
    let attachments ← s.allocateAttachments t
    let backbone ← s.allocateBackbone t
    return ((identities, attachments, backbone), spent s t)) := by
  have identities := run_identities t (fresh s) rfl
  have attachments := run_attachments t ((fresh s).advance .relayIdentity t.numRelays)
    (by simp [fresh])
  have backbone := run_backbone t (((fresh s).advance .relayIdentity t.numRelays).advance
    .clientAttachment (attachmentOrder t).length) (by simp [fresh])
  simp only [parts, StateT.run_bind, StateT.run_pure, identities, attachments, backbone,
    bind_map_left]
  rfl

theorem run_build (s : AddressSpace) (t : Topology) :
    (build t).run (fresh s) = (·, (spent s t).advance .controlPlane 2) <$> s.build t := by
  have control := run_control t (spent s t) (by simp [spent, fresh])
  simp only [build, AddressSpace.build, StateT.run_bind, StateT.run_get, StateT.run_pure, run_lift,
    run_parts, control, pure_bind, bind_assoc, bind_map_left, map_bind, map_pure]
  rfl

end AddressBuilder

end RelayMesh
