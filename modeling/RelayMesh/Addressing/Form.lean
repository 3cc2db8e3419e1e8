import RelayMesh.Addressing.Plan
import RelayMesh.Topology.Form

namespace RelayMesh

open Document (lookup record? required? named?)
open Form (read? write)

instance : Form AddressClass where
  write cls := .text cls.text
  read? := named? (AddressClass.all.map fun c => (c.text, c))

instance : Form Subnet where
  write s := .object [("class", write s.cls), ("index", write s.index), ("cidr", write s.network)]
  read? d := do
    match ← record? ["class", "index", "cidr"] d with
    | [cls, index, network] => return ⟨← required? cls, ← required? index, ← required? network⟩
    | _ => none

instance : Form BackboneLink where
  write l := .object [("a", write l.a), ("b", write l.b), ("subnet", write l.subnet),
    ("addr_a", write l.addressA), ("addr_b", write l.addressB)]
  read? d := do
    match ← record? ["a", "b", "subnet", "addr_a", "addr_b"] d with
    | [a, b, subnet, addressA, addressB] =>
      return ⟨← required? a, ← required? b, ← required? subnet, ← required? addressA,
        ← required? addressB⟩
    | _ => none

instance : Form AttachmentLink where
  write a := .object [("attachment", write a.attachment), ("track", write a.track),
    ("role", write a.role), ("relay", write a.relay), ("host", write a.host),
    ("subnet", write a.subnet), ("relay_addr", write a.relayAddress),
    ("host_addr", write a.hostAddress)]
  read? d := do
    match ← record? ["attachment", "track", "role", "relay", "host", "subnet", "relay_addr",
      "host_addr"] d with
    | [attachment, track, role, relay, host, subnet, relayAddress, hostAddress] =>
      return ⟨← required? attachment, ← required? track, ← required? role, ← required? relay,
        ← required? host, ← required? subnet, ← required? relayAddress, ← required? hostAddress⟩
    | _ => none

instance : Form ControlPlane where
  write c := .object [("control", write c.control), ("uplink", write c.uplink),
    ("uplink_addr", write c.uplinkAddress), ("uplink_peer_addr", write c.uplinkPeerAddress),
    ("segment", write c.segment), ("control_addr", write c.controlAddress),
    ("relay_addrs", write c.relayAddresses)]
  read? d := do
    match ← record? ["control", "uplink", "uplink_addr", "uplink_peer_addr", "segment",
      "control_addr", "relay_addrs"] d with
    | [control, uplink, uplinkAddress, uplinkPeerAddress, segment, controlAddress,
        relayAddresses] =>
      return ⟨← required? control, ← required? uplink, ← required? uplinkAddress,
        ← required? uplinkPeerAddress, ← required? segment, ← required? controlAddress,
        ← required? relayAddresses⟩
    | _ => none

namespace InterfaceRole

def text : InterfaceRole → String
  | .identity => "identity"
  | .backbone _ => "backbone"
  | .attachment _ _ => "attachment"
  | .controlUplink => "control_uplink"
  | .controlSegment => "control_segment"

def fields (role : InterfaceRole) : List (String × Document) :=
  ("role", .text role.text) :: match role with
    | .backbone peer => [("peer", write peer)]
    | .attachment peer track => [("peer", write peer), ("track", write track)]
    | _ => []

def names : List String :=
  ["identity", "backbone", "attachment", "control_uplink", "control_segment"]

def ofFields? (fields : List (String × Document)) : Option InterfaceRole := do
  let name ← match ← lookup "role" fields with
    | .text s => some s
    | .int (.ofNat i) => names[i]?
    | _ => none
  match name with
  | "identity" => return .identity
  | "backbone" => return .backbone (← required? (lookup "peer" fields))
  | "attachment" =>
    return .attachment (← required? (lookup "peer" fields)) (← required? (lookup "track" fields))
  | "control_uplink" => return .controlUplink
  | "control_segment" => return .controlSegment
  | _ => none

end InterfaceRole

/-- The fields of the role stand between the host and the network; since their number varies, an
interface is never a list. -/
instance : Form Interface where
  write i := .object (("host", write i.host) :: (i.role.fields ++ [("cidr", write i.network)]))
  read?
    | .object fields => do
      return ⟨← required? (lookup "host" fields), ← InterfaceRole.ofFields? fields,
        ← required? (lookup "cidr" fields)⟩
    | _ => none

instance : Form AddressPlan where
  write p := .object [("identities", write p.identities), ("attachments", write p.attachments),
    ("backbone", write p.backbone), ("control", write p.control)]
  read? d := do
    match ← record? ["identities", "attachments", "backbone", "control"] d with
    | [identities, attachments, backbone, control] =>
      return ⟨← required? identities, ← required? attachments, ← required? backbone,
        ← required? control⟩
    | _ => none

namespace AddressSpace

def settled? [Form α] (standard : α) : Option Document → Option α
  | none => some standard
  | some d => read? d

def ofValues? : List (Option Document) → Option AddressSpace
  | [backboneRange, backboneLength, identityRange, attachmentRange, attachmentLength, controlRange,
      controlLength, uplinkPeerOffset] => do
    let s := standard
    return {
      backboneRange := ← settled? s.backboneRange backboneRange
      backboneLength := ← settled? s.backboneLength backboneLength
      identityRange := ← settled? s.identityRange identityRange
      attachmentRange := ← settled? s.attachmentRange attachmentRange
      attachmentLength := ← settled? s.attachmentLength attachmentLength
      controlRange := ← settled? s.controlRange controlRange
      controlLength := ← settled? s.controlLength controlLength
      uplinkPeerOffset := ← settled? s.uplinkPeerOffset uplinkPeerOffset }
  | _ => none

def fieldNames : List String :=
  ["backbone_range", "backbone_prefix_len", "identity_range", "attachment_range",
    "attachment_prefix_len", "control_range", "control_prefix_len", "uplink_peer_offset"]

end AddressSpace

/-- Every field of an address space may be missing, at the end of a list too. -/
instance : Form AddressSpace where
  write s := .object [("backbone_range", write s.backboneRange),
    ("backbone_prefix_len", write s.backboneLength), ("identity_range", write s.identityRange),
    ("attachment_range", write s.attachmentRange),
    ("attachment_prefix_len", write s.attachmentLength), ("control_range", write s.controlRange),
    ("control_prefix_len", write s.controlLength),
    ("uplink_peer_offset", write s.uplinkPeerOffset)]
  read?
    | .list items =>
      let missing := List.replicate (AddressSpace.fieldNames.length - items.length) none
      AddressSpace.ofValues? (items.map some ++ missing)
    | .object fields =>
      AddressSpace.ofValues? (AddressSpace.fieldNames.map fun name => lookup name fields)
    | _ => none

end RelayMesh
