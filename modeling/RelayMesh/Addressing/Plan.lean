import RelayMesh.Addressing.Space
import RelayMesh.Topology

namespace RelayMesh

/-- A subnet that was handed out, with its place among the subnets of its class. -/
structure Subnet where
  cls : AddressClass
  index : Nat
  network : Network
deriving DecidableEq, Inhabited

/-- A link between two relays. The lower relay holds the first host address of the subnet. -/
structure BackboneLink where
  a : NodeId
  b : NodeId
  subnet : Subnet
  addressA : Address
  addressB : Address
deriving DecidableEq, Inhabited

namespace BackboneLink

def addressOf? (l : BackboneLink) (node : NodeId) : Option Address :=
  if node = l.a then some l.addressA else if node = l.b then some l.addressB else none

def peerOf? (l : BackboneLink) (node : NodeId) : Option NodeId :=
  if node = l.a then some l.b else if node = l.b then some l.a else none

end BackboneLink

structure AttachmentLink where
  attachment : Nat
  track : String
  role : HopRole
  relay : NodeId
  host : NodeId
  subnet : Subnet
  relayAddress : Address
  hostAddress : Address
deriving DecidableEq, Inhabited

structure ControlPlane where
  control : NodeId
  uplink : Subnet
  uplinkAddress : Address
  uplinkPeerAddress : Address
  segment : Subnet
  controlAddress : Address
  relayAddresses : List Address
deriving DecidableEq, Inhabited

inductive InterfaceRole where
  | identity
  | backbone (peer : NodeId)
  | attachment (peer : NodeId) (track : String)
  | controlUplink
  | controlSegment
deriving DecidableEq, Inhabited

structure Interface where
  host : NodeId
  role : InterfaceRole
  network : Network
deriving DecidableEq, Inhabited

structure AddressPlan where
  identities : List Subnet
  attachments : List AttachmentLink
  backbone : List BackboneLink
  control : ControlPlane
deriving DecidableEq, Inhabited

namespace AddressPlan

def identity? (p : AddressPlan) (relay : NodeId) : Option Address :=
  p.identities[relay]?.map (·.network.address)

def identityAddresses (p : AddressPlan) : List Address :=
  p.identities.map (·.network.address)

def backboneLink? (p : AddressPlan) (x y : NodeId) : Option BackboneLink :=
  let (a, b) := orderedPair x y
  p.backbone.find? fun l => l.a == a && l.b == b

def attachmentOfHost? (p : AddressPlan) (host : NodeId) : Option AttachmentLink :=
  p.attachments.find? fun a => a.host == host

def subnets (p : AddressPlan) : List Subnet :=
  p.identities ++ p.attachments.map (·.subnet) ++ p.backbone.map (·.subnet)
    ++ [p.control.uplink, p.control.segment]

def backboneInterfaces (l : BackboneLink) : List Interface :=
  [⟨l.a, .backbone l.b, l.subnet.network.withAddress l.addressA⟩,
    ⟨l.b, .backbone l.a, l.subnet.network.withAddress l.addressB⟩]

def attachmentInterfaces (a : AttachmentLink) : List Interface :=
  [⟨a.relay, .attachment a.host a.track, a.subnet.network.withAddress a.relayAddress⟩,
    ⟨a.host, .attachment a.relay a.track, a.subnet.network.withAddress a.hostAddress⟩]

def controlInterfaces (c : ControlPlane) : List Interface :=
  [⟨c.control, .controlUplink, c.uplink.network.withAddress c.uplinkAddress⟩,
    ⟨c.control, .controlSegment, c.segment.network.withAddress c.controlAddress⟩]
    ++ c.relayAddresses.zipIdx.map fun (address, i) =>
      ⟨i, .controlSegment, c.segment.network.withAddress address⟩

def materialized (p : AddressPlan) : Option (List (NodeId × NodeId)) → List BackboneLink
  | none => p.backbone
  | some pairs => p.backbone.filter fun l => pairs.contains (l.a, l.b)

def interfaces (p : AddressPlan) (pairs : Option (List (NodeId × NodeId))) : List Interface :=
  (p.identities.zipIdx.map fun (s, i) => ⟨i, .identity, s.network⟩)
    ++ (p.materialized pairs).flatMap backboneInterfaces
    ++ p.attachments.flatMap attachmentInterfaces
    ++ controlInterfaces p.control

end AddressPlan

end RelayMesh
