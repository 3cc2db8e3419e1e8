import RelayMesh.Addressing.Plan

/-!
Allocation of all addresses of a topology. Every class hands out its subnets in ascending order: the
identities in the order of the relays, the attachments relay by relay with the first hops before the
last hops, the backbone pair by pair whether or not an edge is declared, and the control plane its
uplink before its segment. All capacities are checked before the first subnet is handed out.
-/

namespace RelayMesh

namespace AddressSpace

def capacity (s : AddressSpace) : AddressClass → Nat
  | .relayIdentity => Network.hostCount (s.range .relayIdentity).length
  | cls => (s.range cls).subnetCount (s.subnetLength cls)

def network? (s : AddressSpace) (cls : AddressClass) (index : Nat) : Option Network :=
  match cls with
  | .relayIdentity => ((s.range cls).host? index).map fun a => ⟨a, 32, by decide⟩
  | cls => (s.range cls).subnet? (s.subnetLength cls) index

def draw (s : AddressSpace) (cls : AddressClass) (index : Nat) : Except AllocationError Subnet :=
  match s.network? cls index with
  | some network => .ok ⟨cls, index, network⟩
  | none => .error (.notEnoughAddresses cls)

def address (cls : AddressClass) : Option Address → Except AllocationError Address
  | some a => .ok a
  | none => .error (.notEnoughAddresses cls)

def drawLink (s : AddressSpace) (cls : AddressClass) (index : Nat) :
    Except AllocationError (Subnet × Address × Address) := do
  let subnet ← s.draw cls index
  let first ← address cls (subnet.network.host? 0)
  let second ← address cls (subnet.network.host? 1)
  return (subnet, first, second)

def checkEnough (cls : AddressClass) (required available : Nat) : Except AllocationError Unit :=
  if available < required then .error (.exhausted cls required available) else .ok ()

def checkCapacity (s : AddressSpace) (t : Topology) : Except AllocationError Unit := do
  let controlLength := s.subnetLength .controlPlane
  let controlHosts := Network.hostCount controlLength
  let offset := s.uplinkPeerOffset.toNat
  checkEnough .relayIdentity t.numRelays (s.capacity .relayIdentity)
  checkEnough .clientAttachment t.attachments.length (s.capacity .clientAttachment)
  checkEnough .meshBackbone t.pairCount (s.capacity .meshBackbone)
  checkEnough .controlPlane 2 (s.capacity .controlPlane)
  checkEnough .controlPlane (t.numRelays + 1) controlHosts
  if controlHosts < offset ∨ offset < 2 then
    .error (.subnetTooSmall .controlPlane controlLength offset)
  else .ok ()

/-- The attachments of a topology with their places, relay by relay and first hops first. -/
def attachmentOrder (t : Topology) : List (Attachment × Nat) :=
  t.relayIds.flatMap fun relay => [HopRole.firstHop, .lastHop].flatMap fun role =>
    t.attachments.zipIdx.filter fun (a, _) => a.relay == relay && a.role == role

def allocateIdentities (s : AddressSpace) (t : Topology) : Except AllocationError (List Subnet) :=
  t.relayIds.mapM (s.draw .relayIdentity)

def allocateAttachments (s : AddressSpace) (t : Topology) :
    Except AllocationError (List AttachmentLink) :=
  (attachmentOrder t).zipIdx.mapM fun ((a, place), index) => do
    let (subnet, relayAddress, hostAddress) ← s.drawLink .clientAttachment index
    return ⟨place, a.track, a.role, a.relay, a.host, subnet, relayAddress, hostAddress⟩

def allocateBackbone (s : AddressSpace) (t : Topology) :
    Except AllocationError (List BackboneLink) :=
  t.allPairs.zipIdx.mapM fun ((a, b), index) => do
    let (subnet, addressA, addressB) ← s.drawLink .meshBackbone index
    return ⟨a, b, subnet, addressA, addressB⟩

def allocateControl (s : AddressSpace) (t : Topology) : Except AllocationError ControlPlane := do
  let cls := AddressClass.controlPlane
  let uplink ← s.draw cls 0
  let uplinkAddress ← address cls (uplink.network.atOffset? 1)
  let uplinkPeerAddress ← address cls (uplink.network.atOffset? s.uplinkPeerOffset.toNat)
  let segment ← s.draw cls 1
  let controlAddress ← address cls (segment.network.atOffset? 1)
  let relayAddresses ← t.relayIds.mapM fun r => address cls (segment.network.atOffset? (r + 2))
  return ⟨t.control, uplink, uplinkAddress, uplinkPeerAddress, segment, controlAddress,
    relayAddresses⟩

def build (s : AddressSpace) (t : Topology) : Except AllocationError AddressPlan := do
  s.checkCapacity t
  let identities ← s.allocateIdentities t
  let attachments ← s.allocateAttachments t
  let backbone ← s.allocateBackbone t
  let control ← s.allocateControl t
  return ⟨identities, attachments, backbone, control⟩

def allocate (s : AddressSpace) (t : Topology) : Except AllocationError AddressPlan := do
  s.check
  s.build t

end AddressSpace

end RelayMesh
