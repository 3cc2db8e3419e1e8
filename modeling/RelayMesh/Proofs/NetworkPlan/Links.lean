import RelayMesh.Proofs.Addressing.Completeness
import RelayMesh.Proofs.Addressing.Roster
import RelayMesh.Proofs.NetworkPlan.Stages
import RelayMesh.Proofs.Routing.Declared

namespace RelayMesh.NetworkPlan

open AddressPlan

/-- The links between relays and to clients. No two of them share a subnet. -/
def pointLinks (p : AddressPlan) (pairs : List (NodeId × NodeId)) : List Link :=
  (p.materialized (some pairs)).map backboneLink ++ p.attachments.map attachmentLink

theorem mem_pointLinks {p : AddressPlan} {pairs : List (NodeId × NodeId)} {l : Link} :
    l ∈ pointLinks p pairs ↔
      (∃ k ∈ p.materialized (some pairs), backboneLink k = l) ∨
        ∃ a ∈ p.attachments, attachmentLink a = l := by
  simp only [pointLinks, List.mem_append, List.mem_map]

theorem interface_cases {p : AddressPlan} {pairs : List (NodeId × NodeId)} {i : Interface}
    (member : i ∈ p.interfaces (some pairs)) :
    i.role = .identity ∨ i.role = .controlUplink ∨
      (∃ l ∈ p.materialized (some pairs), i ∈ backboneInterfaces l) ∨
      (∃ a ∈ p.attachments, i ∈ attachmentInterfaces a) ∨
      i.role = .controlSegment ∧ i ∈ (controlInterfaces p.control).drop 1 := by
  simp only [AddressPlan.interfaces, List.mem_append] at member
  rcases member with ((identity | backbone) | attachment) | control
  · obtain ⟨_, _, rfl⟩ := List.mem_map.mp identity
    exact .inl rfl
  · exact .inr (.inr (.inl (List.mem_flatMap.mp backbone)))
  · exact .inr (.inr (.inr (.inl (List.mem_flatMap.mp attachment))))
  · rcases List.mem_cons.mp control with rfl | segment
    · exact .inr (.inl rfl)
    · refine .inr (.inr (.inr (.inr ⟨?_, segment⟩)))
      rcases List.mem_cons.mp segment with rfl | relay
      · rfl
      · obtain ⟨_, _, rfl⟩ := List.mem_map.mp relay
        rfl

section Built

variable {policy : DuplicateEdges} {doc : Document} {s : AddressSpace} {t : Topology}
  {p : AddressPlan} (loaded : Topology.load policy doc = .ok t) (built : s.build t = .ok p)
include loaded built

theorem linksOf_eq (mode : MeshMode) :
    linksOf t p (t.links mode) = pointLinks p (t.links mode) ++ controlLinks t p.control := by
  rw [linksOf, pointLinks, Topology.links_eq_filter loaded mode, materialized_eq_filterMap built]

theorem pairs_materialized (mode : MeshMode) :
    (p.materialized (some (t.links mode))).map (·.pair) = t.links mode := by
  rw [Topology.links_eq_filter loaded mode, ← pairs_of_build built, List.filter_map]
  congr 1
  apply List.filter_congr
  intro l member
  rw [Bool.eq_iff_iff, List.contains_iff_mem]
  constructor
  · intro listed
    obtain ⟨k, chosen, same⟩ := List.mem_map.mp listed
    have kept := (List.mem_filter.mp chosen).2
    rw [Function.comp_apply, same] at kept
    exact kept
  · intro kept
    exact List.mem_map.mpr ⟨l, List.mem_filter.mpr ⟨member, kept⟩, rfl⟩

theorem outer_of_build {l : Link}
    (member : l ∈ p.attachments.map attachmentLink ++ controlLinks t p.control) :
    (t.isRelay l.a && t.isRelay l.b) = false := by
  rcases List.mem_append.mp member with client | control
  · obtain ⟨a, attached, rfl⟩ := List.mem_map.mp client
    have above := (Topology.attachments_of_load loaded (attachment_of_build built attached)).2
    have apart : t.isRelay a.host = false := decide_eq_false (Nat.not_lt_of_le above)
    simp [attachmentLink, apart]
  · obtain ⟨relay, _, rfl⟩ := List.mem_map.mp control
    have above : t.numRelays ≤ t.control := by
      rw [Topology.control_of_load loaded]
      exact Nat.le_add_right _ _
    have apart : t.isRelay t.control = false := decide_eq_false (Nat.not_lt_of_le above)
    simp [control_of_build built, apart]

theorem nodup_pointSubnets (accepted : s.check = .ok ()) (pairs : List (NodeId × NodeId)) :
    ((pointLinks p pairs).map (·.subnet) ++ [p.control.segment.network]).Nodup := by
  have part : (p.attachments.map (·.subnet) ++ (p.materialized (some pairs)).map (·.subnet)
      ++ [p.control.segment]).Sublist p.subnets := by
    have links : ((p.materialized (some pairs)).map (·.subnet)).Sublist
        (p.backbone.map (·.subnet)) := List.filter_sublist.map _
    exact ((List.sublist_append_right _ _).append links).append (List.sublist_cons_self _ _)
  have distinct := (part.map (·.network)).nodup (nodup_networks built loaded accepted)
  have order : (p.attachments.map (·.subnet) ++ (p.materialized (some pairs)).map (·.subnet)).Perm
      ((p.materialized (some pairs)).map (·.subnet) ++ p.attachments.map (·.subnet)) :=
    List.perm_append_comm
  have networks : (pointLinks p pairs).map (·.subnet) = ((p.materialized (some pairs)).map (·.subnet)
      ++ p.attachments.map (·.subnet)).map (·.network) := by
    simp only [pointLinks, List.map_append, List.map_map]
    rfl
  rw [networks]
  have swapped := ((order.append_right [p.control.segment]).map (·.network)).nodup_iff.mp distinct
  rwa [List.map_append] at swapped

theorem filter_subnet_eq (accepted : s.check = .ok ()) {pairs : List (NodeId × NodeId)} {l : Link}
    (member : l ∈ pointLinks p pairs) :
    (pointLinks p pairs ++ controlLinks t p.control).filter (fun k => k.subnet == l.subnet) =
      [l] := by
  obtain ⟨distinct, _, apart⟩ :=
    List.nodup_append.mp (nodup_pointSubnets loaded built accepted pairs)
  have others : (controlLinks t p.control).filter (fun k => k.subnet == l.subnet) = [] := by
    rw [List.filter_eq_nil_iff]
    intro k shared same
    obtain ⟨_, _, rfl⟩ := List.mem_map.mp shared
    exact apart _ (List.mem_map_of_mem member) _ (List.mem_singleton_self _) (eq_of_beq same).symm
  rw [List.filter_append, others, List.append_nil]
  exact filter_eq_singleton (·.subnet) distinct member

end Built

section Compiled

variable {c : Configuration} {doc : Document} {p : NetworkPlan} (compiled : compile c doc = .ok p)
include compiled

theorem links_of_compile : p.links = pointLinks p.addresses (p.topology.links c.mesh) ++
    controlLinks p.topology p.addresses.control := by
  obtain ⟨loaded, _, built⟩ := build_of_compile compiled
  obtain ⟨_, _, _, _, _, links, _, _⟩ := compile_spec compiled
  rw [links, linksOf_eq loaded built]

theorem only_link {l : Link} (member : l ∈ pointLinks p.addresses (p.topology.links c.mesh)) :
    p.links.filter (fun k => k.subnet == l.subnet) = [l] := by
  obtain ⟨loaded, accepted, built⟩ := build_of_compile compiled
  rw [links_of_compile compiled]
  exact filter_subnet_eq loaded built accepted member

end Compiled

end RelayMesh.NetworkPlan
