import RelayMesh.Proofs.Topology.Acceptance
import RelayMesh.Proofs.Topology.Nodes

namespace RelayMesh.Topology

def kindIds (t : Topology) (kind : NodeKind) : List NodeId :=
  (t.nodes.filter (·.kind == kind)).map (·.id)

def attachmentsWith (t : Topology) (role : HopRole) : List Attachment :=
  t.attachments.filter (·.role == role)

theorem clientKind_injective : Function.Injective clientKind := by
  intro x y same
  cases x <;> cases y <;> first | rfl | contradiction

section Assembled

variable (names : List String) (edges : List Edge) (first last : List (String × NodeId))

theorem relayNames_assemble : (assemble names edges first last).relays.map (·.name) = names := by
  rw [relays, List.map_take, names_assemble]
  exact List.take_left

def hopsWith : HopRole → List (String × NodeId)
  | .firstHop => first
  | .lastHop => last

theorem hops_assemble (role : HopRole) :
    ((assemble names edges first last).attachmentsWith role).map (fun a => (a.track, a.relay)) =
      hopsWith first last role := by
  have all : (assemble names edges first last).attachments.map
      (fun a => (a.role, a.track, a.relay)) = clientList first last := by
    rw [attachments_assemble, attachmentsFrom, List.map_map]
    exact List.zipIdx_map_fst 0 _
  have own : ((assemble names edges first last).attachmentsWith role).map
      (fun a => (a.track, a.relay)) =
        ((clientList first last).filter (·.1 == role)).map (·.2) := by
    rw [← all, List.filter_map, List.map_map]
    rfl
  rw [own, clientList, List.filter_append, List.filter_map, List.filter_map, List.map_append,
    List.map_map, List.map_map]
  cases role with
  | firstHop => simp [Function.comp_def, hopsWith]
  | lastHop => simp [Function.comp_def, hopsWith]

end Assembled

section Loaded

variable {policy : DuplicateEdges} {doc : Document} {t : Topology}
  (loaded : load policy doc = .ok t)
include loaded

theorem map_ids_of_load : t.nodes.map (·.id) = List.range t.nodes.length := by
  apply List.ext_getElem
  · rw [List.length_map, List.length_range]
  · intro i bound _
    rw [List.getElem_map, List.getElem_range]
    exact id_of_load loaded (List.getElem?_eq_getElem (by simpa using bound))

theorem name_of_load {node : Node} (member : node ∈ t.nodes) : t.name node.id = node.name := by
  obtain ⟨i, inside, rfl⟩ := List.mem_iff_getElem.mp member
  rw [id_of_load loaded (List.getElem?_eq_getElem inside), name, List.getElem?_eq_getElem inside]
  rfl

theorem eq_of_id {x y : Node} (memberX : x ∈ t.nodes) (memberY : y ∈ t.nodes)
    (same : x.id = y.id) : x = y := by
  have distinct : (t.nodes.map (·.id)).Nodup := by
    rw [map_ids_of_load loaded]
    exact List.nodup_range
  exact List.inj_on_of_nodup_map distinct memberX memberY same

theorem kind_of_host {a : Attachment} (attached : a ∈ t.attachments) {node : Node}
    (member : node ∈ t.nodes) (own : node.id = a.host) : node.kind = clientKind a.role := by
  obtain ⟨other, listed, host, kind⟩ := (wellFormed_of_load loaded).fitting a attached
  rw [eq_of_id loaded member listed (own.trans host.symm)]
  exact kind

theorem relay_iff {node : Node} (member : node ∈ t.nodes) :
    node.kind = .relay ↔ node.id < t.numRelays := by
  constructor
  · intro relay
    rcases node_cases loaded (hasNode_id loaded member) with below | ⟨a, attached, host⟩ | control
    · exact below
    · have client := kind_of_host loaded attached member host.symm
      rw [relay] at client
      cases role : a.role <;> rw [role] at client <;> contradiction
    · have other := ((wellFormed_of_load loaded).control node member).mpr control
      rw [relay] at other
      contradiction
  · exact fun below => kind_of_load loaded member below

theorem kindIds_eq {kind : NodeKind} {ids : List NodeId} (ascending : ids.Pairwise (· < ·))
    (members : ∀ id, id ∈ ids ↔ ∃ node ∈ t.nodes, node.kind = kind ∧ node.id = id) :
    t.kindIds kind = ids := by
  have own : (t.kindIds kind).Pairwise (· < ·) := by
    have part : (t.kindIds kind).Sublist (t.nodes.map (·.id)) := List.filter_sublist.map _
    rw [map_ids_of_load loaded] at part
    exact List.pairwise_lt_range.sublist part
  have perm : (t.kindIds kind).Perm ids := by
    rw [List.perm_ext_iff_of_nodup (own.imp Nat.ne_of_lt) (ascending.imp Nat.ne_of_lt)]
    intro id
    rw [members, kindIds, List.mem_map]
    simp only [List.mem_filter, beq_iff_eq, and_assoc]
  exact perm.eq_of_pairwise (fun x y _ _ before after => absurd after (Nat.not_lt_of_lt before))
    own ascending

theorem exists_node {id : NodeId} (inside : t.HasNode id) : ∃ node ∈ t.nodes, node.id = id :=
  ⟨_, List.getElem_mem inside, id_of_load loaded (List.getElem?_eq_getElem inside)⟩

theorem kindIds_relay : t.kindIds .relay = List.range t.numRelays := by
  apply kindIds_eq loaded List.pairwise_lt_range
  intro id
  rw [List.mem_range]
  constructor
  · intro below
    obtain ⟨node, member, rfl⟩ := exists_node loaded (hasNode_relay loaded below)
    exact ⟨node, member, (relay_iff loaded member).mpr below, rfl⟩
  · rintro ⟨node, member, relay, rfl⟩
    exact (relay_iff loaded member).mp relay

theorem kindIds_control : t.kindIds .control = [t.control] := by
  apply kindIds_eq loaded (List.pairwise_singleton _ _)
  intro id
  rw [List.mem_singleton]
  constructor
  · rintro rfl
    obtain ⟨node, member, own⟩ := exists_node loaded (hasNode_control loaded)
    exact ⟨node, member, ((wellFormed_of_load loaded).control node member).mpr own, own⟩
  · rintro ⟨node, member, control, rfl⟩
    exact ((wellFormed_of_load loaded).control node member).mp control

theorem kindIds_client (role : HopRole) :
    t.kindIds (clientKind role) = (t.attachmentsWith role).map (·.host) := by
  have ascending : (t.attachments.map (·.host)).Pairwise (· < ·) := by
    obtain ⟨_, _, names, edges, first, last, _, _, _, _, _, _, _, _, rfl⟩ := load_spec loaded
    rw [hosts_assemble]
    exact List.pairwise_lt_range'
  apply kindIds_eq loaded (ascending.sublist (List.filter_sublist.map _))
  intro id
  rw [List.mem_map]
  constructor
  · rintro ⟨a, listed, rfl⟩
    obtain ⟨attached, own⟩ := List.mem_filter.mp listed
    obtain ⟨node, member, host, kind⟩ := (wellFormed_of_load loaded).fitting a attached
    exact ⟨node, member, eq_of_beq own ▸ kind, host⟩
  · rintro ⟨node, member, kind, rfl⟩
    have client : node.id ∈ t.attachments.map (·.host) := by
      rw [(wellFormed_of_load loaded).clients]
      refine List.mem_map_of_mem (List.mem_filter.mpr ⟨member, ?_⟩)
      rw [Node.isClient, kind]
      cases role <;> rfl
    obtain ⟨a, attached, host⟩ := List.mem_map.mp client
    have same := kind_of_host loaded attached member host.symm
    have own : a.role = role := clientKind_injective (same.symm.trans kind)
    exact ⟨a, List.mem_filter.mpr ⟨attached, beq_iff_eq.mpr own⟩, host⟩

theorem hops_of_load : ∃ fields, doc = .object fields ∧ ∀ role, ∃ items,
    HasItems fields (hopField role) items ∧
      List.Forall₂ (fun item a => DescribesHop (t.relays.map (·.name)) item (a.track, a.relay)) items
        (t.attachmentsWith role) := by
  obtain ⟨fields, names, edges, first, last, rfl, described, rfl⟩ := load_ok_iff.mp loaded
  refine ⟨fields, rfl, fun role => ?_⟩
  simp only [relayNames_assemble]
  have described : ∃ items, HasItems fields (hopField role) items ∧
      List.Forall₂ (DescribesHop names) items (hopsWith first last role) := by
    cases role with
    | firstHop => exact described.publishers
    | lastHop => exact described.subscribers
  obtain ⟨items, listed, each⟩ := described
  rw [← hops_assemble names edges, List.forall₂_map_right_iff] at each
  exact ⟨items, listed, each⟩

end Loaded

end RelayMesh.Topology
