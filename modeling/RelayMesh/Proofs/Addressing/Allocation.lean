import Mathlib.Data.List.Nodup
import Mathlib.Data.List.Perm.Basic
import Mathlib.Data.List.ProdSigma
import RelayMesh.Addressing.Allocation
import RelayMesh.Proofs.Checked
import RelayMesh.Proofs.Keyed
import RelayMesh.Proofs.Network.Range

namespace RelayMesh

def Subnet.key (sub : Subnet) : AddressClass × Nat :=
  (sub.cls, sub.index)

def Subnet.DrawnFrom (s : AddressSpace) (sub : Subnet) : Prop :=
  s.network? sub.cls sub.index = some sub.network

/-- What an attachment link has from the topology: the attachment and its place there. -/
def AttachmentLink.origin (a : AttachmentLink) : Attachment × Nat :=
  (⟨a.track, a.relay, a.role, a.host⟩, a.attachment)

def BackboneLink.pair (l : BackboneLink) : NodeId × NodeId :=
  (l.a, l.b)

structure Subnet.Joins (sub : Subnet) (x y : Address) : Prop where
  first : sub.network.host? 0 = some x
  second : sub.network.host? 1 = some y

theorem Subnet.Joins.holdsHost {sub : Subnet} {x y : Address} (joins : sub.Joins x y) :
    sub.network.HoldsHost x ∧ sub.network.HoldsHost y :=
  ⟨(Network.host?_spec joins.first).2, (Network.host?_spec joins.second).2⟩

theorem Subnet.Joins.ne {sub : Subnet} {x y : Address} (joins : sub.Joins x y) : x ≠ y := by
  have first := (Network.host?_spec joins.first).1
  have second := (Network.host?_spec joins.second).1
  intro same
  rw [same] at first
  omega

namespace AddressSpace

open Checked (bind_ok pure_ok)

theorem draw_spec {s : AddressSpace} {cls : AddressClass} {i : Nat} {sub : Subnet}
    (drawn : s.draw cls i = .ok sub) : sub.key = (cls, i) ∧ sub.DrawnFrom s := by
  unfold draw at drawn
  split at drawn
  · rename_i network found
    cases drawn
    exact ⟨rfl, found⟩
  · contradiction

theorem address_spec {cls : AddressClass} {found : Option Address} {a : Address}
    (given : address cls found = .ok a) : found = some a := by
  cases found with
  | none => contradiction
  | some b =>
    cases given
    rfl

theorem drawLink_spec {s : AddressSpace} {cls : AddressClass} {i : Nat} {sub : Subnet}
    {x y : Address} (drawn : s.drawLink cls i = .ok (sub, x, y)) :
    sub.key = (cls, i) ∧ sub.DrawnFrom s ∧ sub.Joins x y := by
  simp only [drawLink, bind_ok, pure_ok, Prod.mk.injEq] at drawn
  obtain ⟨_, hsub, _, hx, _, hy, rfl, rfl, rfl⟩ := drawn
  have spec := draw_spec hsub
  exact ⟨spec.1, spec.2, address_spec hx, address_spec hy⟩

theorem build_spec {s : AddressSpace} {t : Topology} {p : AddressPlan}
    (built : s.build t = .ok p) :
    s.checkCapacity t = .ok () ∧ s.allocateIdentities t = .ok p.identities ∧
      s.allocateAttachments t = .ok p.attachments ∧ s.allocateBackbone t = .ok p.backbone ∧
      s.allocateControl t = .ok p.control := by
  simp only [build, bind_ok, pure_ok] at built
  obtain ⟨_, checked, identities, hi, attachments, ha, backbone, hb, control, hc, rfl⟩ := built
  exact ⟨checked, hi, ha, hb, hc⟩

theorem allocate_spec {s : AddressSpace} {t : Topology} {p : AddressPlan} :
    s.allocate t = .ok p ↔ s.check = .ok () ∧ s.build t = .ok p := by
  simp only [allocate, bind_ok]
  constructor
  · rintro ⟨_, checked, built⟩
    exact ⟨checked, built⟩
  · rintro ⟨checked, built⟩
    exact ⟨(), checked, built⟩

theorem identities_spec {s : AddressSpace} {t : Topology} {identities : List Subnet}
    (done : s.allocateIdentities t = .ok identities) :
    identities.map Subnet.key = (List.range t.numRelays).map (AddressClass.relayIdentity, ·) ∧
      ∀ sub ∈ identities, sub.DrawnFrom s := by
  refine ⟨Checked.map_of_mapM_ok done _ _ fun r sub drawn => (draw_spec drawn).1, ?_⟩
  intro sub member
  obtain ⟨r, _, drawn⟩ := Checked.mem_of_mapM_ok done member
  exact (draw_spec drawn).2

theorem keys_zipIdx {α : Type} (cls : AddressClass) (xs : List α) :
    xs.zipIdx.map (fun entry => (cls, entry.2)) = (List.range xs.length).map (cls, ·) := by
  rw [List.range_eq_range', ← List.zipIdx_map_snd 0 xs, List.map_map]
  rfl

theorem drawn_links {κ ω : Type} {s : AddressSpace} (cls : AddressClass) (subnet : κ → Subnet)
    (first second : κ → Address) (origin : κ → ω) {make : ω × Nat → Except AllocationError κ}
    {xs : List ω} {links : List κ} (done : xs.zipIdx.mapM make = .ok links)
    (each : ∀ x i l, make (x, i) = .ok l →
      origin l = x ∧ s.drawLink cls i = .ok (subnet l, first l, second l)) :
    links.map origin = xs ∧
      links.map (fun l => (subnet l).key) = (List.range links.length).map (cls, ·) ∧
      ∀ l ∈ links, (subnet l).DrawnFrom s ∧ (subnet l).Joins (first l) (second l) := by
  have origins := Checked.map_of_mapM_ok done origin Prod.fst fun entry l made =>
    (each entry.1 entry.2 l made).1
  have keys := Checked.map_of_mapM_ok done (fun l => (subnet l).key) (fun entry => (cls, entry.2))
    fun entry l made => (drawLink_spec (each entry.1 entry.2 l made).2).1
  rw [List.zipIdx_map_fst] at origins
  have length : links.length = xs.length := by rw [← origins, List.length_map]
  refine ⟨origins, ?_, ?_⟩
  · rw [keys, keys_zipIdx, length]
  · intro l member
    obtain ⟨entry, _, made⟩ := Checked.mem_of_mapM_ok done member
    exact (drawLink_spec (each entry.1 entry.2 l made).2).2

theorem attachmentOrder_perm {t : Topology}
    (placed : ∀ a ∈ t.attachments, a.relay < t.numRelays) :
    (attachmentOrder t).Perm t.attachments.zipIdx := by
  have grouped := perm_grouped (fun entry : Attachment × Nat => (entry.1.relay, entry.1.role))
    (t.relayIds ×ˢ [HopRole.firstHop, .lastHop])
    (List.Nodup.product List.nodup_range (by decide)) t.attachments.zipIdx (by
      intro entry member
      have bound := placed _ (List.fst_mem_of_mem_zipIdx member)
      rw [List.mem_product]
      refine ⟨List.mem_range.mpr bound, ?_⟩
      cases entry.1.role <;> simp)
  have same : attachmentOrder t = (t.relayIds ×ˢ [HopRole.firstHop, .lastHop]).flatMap fun k =>
      t.attachments.zipIdx.filter fun entry => (entry.1.relay, entry.1.role) == k := by
    simp only [attachmentOrder, SProd.sprod, List.product, List.flatMap_assoc, List.flatMap_map]
    rfl
  rw [same]
  exact grouped

theorem attachments_spec {s : AddressSpace} {t : Topology} {links : List AttachmentLink}
    (done : s.allocateAttachments t = .ok links) :
    links.map (·.origin) = attachmentOrder t ∧
      links.map (·.subnet.key) =
        (List.range links.length).map (AddressClass.clientAttachment, ·) ∧
      ∀ a ∈ links, a.subnet.DrawnFrom s ∧ a.subnet.Joins a.relayAddress a.hostAddress := by
  refine drawn_links .clientAttachment (·.subnet) (·.relayAddress) (·.hostAddress) (·.origin)
    done ?_
  rintro ⟨a, place⟩ index link made
  obtain ⟨⟨sub, x, y⟩, drawn, made⟩ := bind_ok.mp made
  cases pure_ok.mp made
  exact ⟨rfl, drawn⟩

theorem backbone_spec {s : AddressSpace} {t : Topology} {links : List BackboneLink}
    (done : s.allocateBackbone t = .ok links) :
    links.map (·.pair) = t.allPairs ∧
      links.map (·.subnet.key) = (List.range links.length).map (AddressClass.meshBackbone, ·) ∧
      ∀ l ∈ links, l.subnet.DrawnFrom s ∧ l.subnet.Joins l.addressA l.addressB := by
  refine drawn_links .meshBackbone (·.subnet) (·.addressA) (·.addressB) (·.pair) done ?_
  rintro ⟨a, b⟩ index link made
  obtain ⟨⟨sub, x, y⟩, drawn, made⟩ := bind_ok.mp made
  cases pure_ok.mp made
  exact ⟨rfl, drawn⟩

/-- The addresses of the control plane stand at their distances from the bases of the uplink and
of the segment. -/
theorem control_spec {s : AddressSpace} {t : Topology} {c : ControlPlane}
    (done : s.allocateControl t = .ok c) :
    c.control = t.control ∧
      c.uplink.key = (.controlPlane, 0) ∧ c.uplink.DrawnFrom s ∧
      c.segment.key = (.controlPlane, 1) ∧ c.segment.DrawnFrom s ∧
      c.uplink.network.atOffset? 1 = some c.uplinkAddress ∧
      c.uplink.network.atOffset? s.uplinkPeerOffset.toNat = some c.uplinkPeerAddress ∧
      c.segment.network.atOffset? 1 = some c.controlAddress ∧
      t.relayIds.mapM (fun r => address .controlPlane (c.segment.network.atOffset? (r + 2))) =
        .ok c.relayAddresses := by
  simp only [allocateControl, bind_ok, pure_ok] at done
  obtain ⟨uplink, hu, x, hx, y, hy, segment, hs, z, hz, relays, hr, rfl⟩ := done
  have uplinkSpec := draw_spec hu
  have segmentSpec := draw_spec hs
  exact ⟨rfl, uplinkSpec.1, uplinkSpec.2, segmentSpec.1, segmentSpec.2, address_spec hx,
    address_spec hy, address_spec hz, hr⟩

end AddressSpace

end RelayMesh
