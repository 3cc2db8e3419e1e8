import RelayMesh.Network.Range

namespace RelayMesh

inductive AddressClass where
  | meshBackbone
  | relayIdentity
  | clientAttachment
  | controlPlane
deriving DecidableEq, Inhabited

namespace AddressClass

def text : AddressClass → String
  | .meshBackbone => "mesh_backbone"
  | .relayIdentity => "relay_identity"
  | .clientAttachment => "client_attachment"
  | .controlPlane => "control_plane"

instance : ToString AddressClass := ⟨text⟩

def all : List AddressClass :=
  [.meshBackbone, .relayIdentity, .clientAttachment, .controlPlane]

end AddressClass

inductive AllocationError where
  | exhausted (cls : AddressClass) (required available : Nat)
  | notEnoughAddresses (cls : AddressClass)
  | invalidLength
  | subnetTooSmall (cls : AddressClass) (length required : Nat)
  | overlappingClasses (first second : AddressClass) (firstRange secondRange : Network)
deriving DecidableEq

def AllocationError.message : AllocationError → String
  | .exhausted cls required available =>
    s!"Address space of class {cls} is exhausted: {required} required, but only {available} available"
  | .notEnoughAddresses cls =>
    s!"IP address of class {cls} could not be assigned! ran out of addresses."
  | .invalidLength => "Invalid Netmask: invalid IP prefix length"
  | .subnetTooSmall cls length required =>
    s!"Subnets of class {cls} (/{length}) cannot hold {required} host addresses"
  | .overlappingClasses first second firstRange secondRange =>
    s!"Address range {firstRange} of class {first} overlaps with range {secondRange} of class {second}"

/-- The ranges and subnet lengths of all classes. Identities are single addresses. The peer of the
control node on its uplink stands at a configured distance from the base of the uplink. -/
structure AddressSpace where
  backboneRange : Network
  backboneLength : UInt8
  identityRange : Network
  attachmentRange : Network
  attachmentLength : UInt8
  controlRange : Network
  controlLength : UInt8
  uplinkPeerOffset : UInt32
deriving DecidableEq

namespace AddressSpace

def standard : AddressSpace where
  backboneRange := ⟨.ofOctets 10 0 0 0, 16, by decide⟩
  backboneLength := 24
  identityRange := ⟨.ofOctets 10 3 0 0, 16, by decide⟩
  attachmentRange := ⟨.ofOctets 10 4 0 0, 16, by decide⟩
  attachmentLength := 30
  controlRange := ⟨.ofOctets 10 1 0 0, 16, by decide⟩
  controlLength := 24
  uplinkPeerOffset := 99

instance : Inhabited AddressSpace := ⟨standard⟩

def withBackbone (s : AddressSpace) (range : Network) (length : UInt8) : AddressSpace :=
  { s with backboneRange := range.truncated, backboneLength := length }

def withIdentity (s : AddressSpace) (range : Network) : AddressSpace :=
  { s with identityRange := range.truncated }

def withAttachment (s : AddressSpace) (range : Network) (length : UInt8) : AddressSpace :=
  { s with attachmentRange := range.truncated, attachmentLength := length }

def withControl (s : AddressSpace) (range : Network) (length : UInt8) : AddressSpace :=
  { s with controlRange := range.truncated, controlLength := length }

def withUplinkPeerOffset (s : AddressSpace) (offset : UInt32) : AddressSpace :=
  { s with uplinkPeerOffset := offset }

def configured (s : AddressSpace) : AddressClass → Network
  | .meshBackbone => s.backboneRange
  | .relayIdentity => s.identityRange
  | .clientAttachment => s.attachmentRange
  | .controlPlane => s.controlRange

def range (s : AddressSpace) (cls : AddressClass) : Network :=
  (s.configured cls).truncated

def subnetLength (s : AddressSpace) : AddressClass → Nat
  | .meshBackbone => s.backboneLength.toNat
  | .relayIdentity => 32
  | .clientAttachment => s.attachmentLength.toNat
  | .controlPlane => s.controlLength.toNat

def overlap (r₁ r₂ : Network) : Bool :=
  r₁.contains r₂ || r₂.contains r₁

def classPairs : List (AddressClass × AddressClass) :=
  [(.meshBackbone, .relayIdentity), (.meshBackbone, .clientAttachment),
    (.meshBackbone, .controlPlane), (.relayIdentity, .clientAttachment),
    (.relayIdentity, .controlPlane), (.clientAttachment, .controlPlane)]

/-- No two classes share an address; the first pair that does is reported. -/
def checkDisjoint (s : AddressSpace) : Except AllocationError Unit :=
  match classPairs.find? fun (c₁, c₂) => overlap (s.range c₁) (s.range c₂) with
  | some (c₁, c₂) => .error (.overlappingClasses c₁ c₂ (s.range c₁) (s.range c₂))
  | none => .ok ()

def checkPairRoom (s : AddressSpace) (cls : AddressClass) : Except AllocationError Unit :=
  if Network.hostCount (s.subnetLength cls) < 2 then
    .error (.subnetTooSmall cls (s.subnetLength cls) 2)
  else .ok ()

def checkLength (s : AddressSpace) (cls : AddressClass) : Except AllocationError Unit :=
  if (s.range cls).length ≤ s.subnetLength cls ∧ s.subnetLength cls ≤ 32 then .ok ()
  else .error .invalidLength

def check (s : AddressSpace) : Except AllocationError Unit := do
  s.checkDisjoint
  s.checkPairRoom .meshBackbone
  s.checkPairRoom .clientAttachment
  s.checkLength .clientAttachment
  s.checkLength .meshBackbone
  s.checkLength .controlPlane

end AddressSpace

end RelayMesh
