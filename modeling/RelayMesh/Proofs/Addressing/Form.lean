import RelayMesh.Addressing.Form
import RelayMesh.Proofs.Network.Form
import RelayMesh.Proofs.Topology.Form

namespace RelayMesh

open Document hiding read?
open Form (write read?)
open ReadsBack (read?_write)

@[simp] theorem writable_addressClass (cls : AddressClass) : (write cls).Writable := .text _

instance : ReadsBack AddressClass := ⟨fun cls _ => by cases cls <;> rfl⟩

/-! ### Subnets -/

@[simp] theorem writable_subnet {s : Subnet} : (write s).Writable ↔ s.index < UInt64.size := by
  change Writable (.object [("class", write s.cls), ("index", write s.index),
    ("cidr", write s.network)]) ↔ _
  simp [writable_object]

theorem read?_subnet (cls index network : Document) :
    read? (.object [("class", cls), ("index", index), ("cidr", network)])
      = (do return Subnet.mk (← read? cls) (← read? index) (← read? network)) := by
  change (record? _ (.object _)).bind _ = _
  simp [record?_object, lookup_cons, required?]

instance : ReadsBack Subnet where
  read?_write s writable := by
    rw [writable_subnet] at writable
    refine (read?_subnet _ _ _).trans ?_
    simp [read?_write, writable]

/-! ### Links -/

@[simp] theorem writable_backboneLink {l : BackboneLink} :
    (write l).Writable ↔
      l.a < UInt64.size ∧ l.b < UInt64.size ∧ l.subnet.index < UInt64.size := by
  change Writable (.object [("a", write l.a), ("b", write l.b), ("subnet", write l.subnet),
    ("addr_a", write l.addressA), ("addr_b", write l.addressB)]) ↔ _
  simp [writable_object]

theorem read?_backboneLink (a b subnet addressA addressB : Document) :
    read? (.object [("a", a), ("b", b), ("subnet", subnet), ("addr_a", addressA),
        ("addr_b", addressB)])
      = (do
        return BackboneLink.mk (← read? a) (← read? b) (← read? subnet) (← read? addressA)
          (← read? addressB)) := by
  change (record? _ (.object _)).bind _ = _
  simp [record?_object, lookup_cons, required?]

instance : ReadsBack BackboneLink where
  read?_write l writable := by
    rw [writable_backboneLink] at writable
    refine (read?_backboneLink _ _ _ _ _).trans ?_
    simp [read?_write, writable]

@[simp] theorem writable_attachmentLink {a : AttachmentLink} :
    (write a).Writable ↔ a.attachment < UInt64.size ∧ a.relay < UInt64.size ∧
      a.host < UInt64.size ∧ a.subnet.index < UInt64.size := by
  change Writable (.object [("attachment", write a.attachment), ("track", write a.track),
    ("role", write a.role), ("relay", write a.relay), ("host", write a.host),
    ("subnet", write a.subnet), ("relay_addr", write a.relayAddress),
    ("host_addr", write a.hostAddress)]) ↔ _
  simp [writable_object]

theorem read?_attachmentLink
    (attachment track role relay host subnet relayAddress hostAddress : Document) :
    read? (.object [("attachment", attachment), ("track", track), ("role", role),
        ("relay", relay), ("host", host), ("subnet", subnet), ("relay_addr", relayAddress),
        ("host_addr", hostAddress)])
      = (do
        return AttachmentLink.mk (← read? attachment) (← read? track) (← read? role)
          (← read? relay) (← read? host) (← read? subnet) (← read? relayAddress)
          (← read? hostAddress)) := by
  change (record? _ (.object _)).bind _ = _
  simp [record?_object, lookup_cons, required?]

instance : ReadsBack AttachmentLink where
  read?_write a writable := by
    rw [writable_attachmentLink] at writable
    refine (read?_attachmentLink _ _ _ _ _ _ _ _).trans ?_
    simp [read?_write, writable]

/-! ### Control planes -/

@[simp] theorem writable_controlPlane {c : ControlPlane} :
    (write c).Writable ↔ c.control < UInt64.size ∧ c.uplink.index < UInt64.size ∧
      c.segment.index < UInt64.size := by
  change Writable (.object [("control", write c.control), ("uplink", write c.uplink),
    ("uplink_addr", write c.uplinkAddress), ("uplink_peer_addr", write c.uplinkPeerAddress),
    ("segment", write c.segment), ("control_addr", write c.controlAddress),
    ("relay_addrs", write c.relayAddresses)]) ↔ _
  simp [writable_object]

theorem read?_controlPlane (control uplink uplinkAddress uplinkPeerAddress segment
    controlAddress relayAddresses : Document) :
    read? (.object [("control", control), ("uplink", uplink), ("uplink_addr", uplinkAddress),
        ("uplink_peer_addr", uplinkPeerAddress), ("segment", segment),
        ("control_addr", controlAddress), ("relay_addrs", relayAddresses)])
      = (do
        return ControlPlane.mk (← read? control) (← read? uplink) (← read? uplinkAddress)
          (← read? uplinkPeerAddress) (← read? segment) (← read? controlAddress)
          (← read? relayAddresses)) := by
  change (record? _ (.object _)).bind _ = _
  simp [record?_object, lookup_cons, required?]

instance : ReadsBack ControlPlane where
  read?_write c writable := by
    rw [writable_controlPlane] at writable
    refine (read?_controlPlane _ _ _ _ _ _ _).trans ?_
    simp [read?_write, writable]

/-! ### Interfaces -/

namespace InterfaceRole

def peer? : InterfaceRole → Option NodeId
  | .backbone peer => some peer
  | .attachment peer _ => some peer
  | _ => none

theorem ofFields?_fields {role : InterfaceRole} (fits : ∀ peer ∈ role.peer?, peer < UInt64.size)
    (host network : Document) :
    ofFields? (("host", host) :: (role.fields ++ [("cidr", network)])) = some role := by
  cases role with
  | identity | controlUplink | controlSegment => simp [fields, ofFields?, lookup_cons, text]
  | backbone peer | attachment peer track =>
    have peerFits : peer < UInt64.size := fits peer rfl
    simp [fields, ofFields?, lookup_cons, text, required?_write, peerFits]

theorem lookup_network (role : InterfaceRole) (host network : Document) :
    lookup "cidr" (("host", host) :: (role.fields ++ [("cidr", network)])) = some network := by
  cases role <;> simp [fields, lookup_cons]

end InterfaceRole

@[simp] theorem writable_interface {i : Interface} :
    (write i).Writable ↔ i.host < UInt64.size ∧ ∀ peer ∈ i.role.peer?, peer < UInt64.size := by
  change Writable (.object (("host", write i.host) :: (i.role.fields ++
    [("cidr", write i.network)]))) ↔ _
  cases i.role <;> simp [writable_object, InterfaceRole.fields, InterfaceRole.peer?]

theorem read?_interface {role : InterfaceRole} (fits : ∀ peer ∈ role.peer?, peer < UInt64.size)
    (host network : Document) :
    read? (.object (("host", host) :: (role.fields ++ [("cidr", network)])))
      = (do return Interface.mk (← read? host) role (← read? network)) := by
  have reading (fields : List (String × Document)) :
      read? (.object fields) = (do
        return Interface.mk (← required? (lookup "host" fields)) (← InterfaceRole.ofFields? fields)
          (← required? (lookup "cidr" fields))) := rfl
  rw [reading, InterfaceRole.ofFields?_fields fits, InterfaceRole.lookup_network, lookup_cons,
    if_pos rfl]
  rfl

instance : ReadsBack Interface where
  read?_write i writable := by
    obtain ⟨host, peer⟩ := writable_interface.mp writable
    refine (read?_interface peer _ _).trans ?_
    simp [read?_write, host]

/-! ### Address plans -/

@[simp] theorem writable_addressPlan {p : AddressPlan} :
    (write p).Writable ↔ (write p.identities).Writable ∧ (write p.attachments).Writable ∧
      (write p.backbone).Writable ∧ (write p.control).Writable := by
  change Writable (.object [("identities", write p.identities),
    ("attachments", write p.attachments), ("backbone", write p.backbone),
    ("control", write p.control)]) ↔ _
  simp [writable_object]

theorem read?_addressPlan (identities attachments backbone control : Document) :
    read? (.object [("identities", identities), ("attachments", attachments),
        ("backbone", backbone), ("control", control)])
      = (do
        return AddressPlan.mk (← read? identities) (← read? attachments) (← read? backbone)
          (← read? control)) := by
  change (record? _ (.object _)).bind _ = _
  simp [record?_object, lookup_cons, required?]

instance : ReadsBack AddressPlan where
  read?_write p writable := by
    obtain ⟨identities, attachments, backbone, control⟩ := writable_addressPlan.mp writable
    refine (read?_addressPlan _ _ _ _).trans ?_
    simp [read?_write _ identities, read?_write _ attachments, read?_write _ backbone,
      read?_write _ control]

end RelayMesh
