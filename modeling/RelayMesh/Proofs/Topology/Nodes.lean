import RelayMesh.Proofs.Topology.WellFormed

namespace RelayMesh.Topology

def HasNode (t : Topology) (id : NodeId) : Prop :=
  id < t.nodes.length

theorem length_attachments_assemble (names : List String) (edges : List Edge)
    (first last : List (String × NodeId)) :
    (assemble names edges first last).attachments.length = first.length + last.length := by
  have roles := congrArg List.length (roles_assemble names edges first last)
  simpa using roles

section Loaded

variable {policy : DuplicateEdges} {doc : Document} {t : Topology}
  (loaded : load policy doc = .ok t)
include loaded

theorem control_of_load : t.control = t.numRelays + t.attachments.length := by
  obtain ⟨_, _, names, edges, first, last, _, _, _, _, _, _, _, _, rfl⟩ := load_spec loaded
  rw [control_assemble, length_attachments_assemble]
  rfl

theorem length_nodes_of_load : t.nodes.length = t.control + 1 := by
  obtain ⟨_, _, names, edges, first, last, _, _, _, _, _, _, _, _, rfl⟩ := load_spec loaded
  have kinds := congrArg List.length (kinds_assemble names edges first last)
  rw [control_assemble]
  simpa [length_clientKinds, Nat.add_assoc] using kinds

theorem hasNode_control : t.HasNode t.control := by
  rw [HasNode, length_nodes_of_load loaded]
  exact Nat.lt_add_one t.control

theorem hasNode_relay {relay : NodeId} (inside : relay < t.numRelays) : t.HasNode relay := by
  rw [HasNode, length_nodes_of_load loaded, control_of_load loaded, Nat.add_assoc]
  exact Nat.lt_add_right _ inside

theorem hasNode_id {node : Node} (member : node ∈ t.nodes) : t.HasNode node.id := by
  obtain ⟨_, _, names, edges, first, last, _, _, _, _, _, _, _, _, rfl⟩ := load_spec loaded
  exact (List.getElem?_eq_some_iff.mp (mem_nodes_assemble names edges first last member)).1

theorem hasNode_host {a : Attachment} (member : a ∈ t.attachments) : t.HasNode a.host := by
  have node : ∃ node ∈ t.nodes, node.id = a.host := by
    obtain ⟨_, _, names, edges, first, last, _, _, _, _, _, _, _, _, rfl⟩ := load_spec loaded
    obtain ⟨node, listed, own, _⟩ := fitting_assemble names edges first last member
    exact ⟨node, listed, own⟩
  obtain ⟨node, listed, own⟩ := node
  exact own ▸ hasNode_id loaded listed

theorem nodup_hosts_of_load : (t.attachments.map (·.host)).Nodup := by
  obtain ⟨_, _, names, edges, first, last, _, _, _, _, _, _, _, _, rfl⟩ := load_spec loaded
  rw [hosts_assemble]
  exact List.nodup_range'

theorem node_cases {id : NodeId} (node : t.HasNode id) :
    id < t.numRelays ∨ (∃ a ∈ t.attachments, a.host = id) ∨ id = t.control := by
  rw [HasNode, length_nodes_of_load loaded] at node
  rcases Nat.lt_or_ge id t.numRelays with relay | above
  · exact .inl relay
  · rcases Nat.lt_or_ge id t.control with client | control
    · rw [control_of_load loaded] at client
      have inside := Nat.sub_lt_left_of_lt_add above client
      have host := (wellFormed_of_load loaded).hosts _ _ (List.getElem?_eq_getElem inside)
      rw [Nat.add_sub_cancel' above] at host
      exact .inr (.inl ⟨_, List.getElem_mem inside, host⟩)
    · exact .inr (.inr (Nat.le_antisymm (Nat.le_of_lt_succ node) control))

theorem isDelay_of_load {e : Edge} (member : e ∈ t.edges) {x : Binary64} (own : e.delay = some x) :
    isDelay x = true := by
  obtain ⟨_, _, names, edges, first, last, _, _, _, _, listed, _, _, _, rfl⟩ := load_spec loaded
  exact edgeList_delay listed member own

theorem nodup_names_of_load : (t.nodes.map (·.name)).Nodup := by
  obtain ⟨_, _, names, edges, first, last, _, _, named, _, _, _, _, _, rfl⟩ := load_spec loaded
  rw [names_assemble]
  exact nodup_freeNames (relayNames_spec named).1

theorem id_of_load {i : Nat} {node : Node} (place : t.nodes[i]? = some node) : node.id = i := by
  obtain ⟨_, _, names, edges, first, last, _, _, _, _, _, _, _, _, rfl⟩ := load_spec loaded
  exact numbered_assemble names edges first last place

theorem mem_relays_of_load {node : Node} :
    node ∈ t.relays ↔ node ∈ t.nodes ∧ node.id < t.numRelays := by
  rw [relays, List.mem_take_iff_getElem]
  constructor
  · rintro ⟨i, bound, rfl⟩
    obtain ⟨below, inside⟩ := Nat.lt_min.mp bound
    rw [id_of_load loaded (List.getElem?_eq_getElem inside)]
    exact ⟨List.getElem_mem inside, below⟩
  · rintro ⟨member, below⟩
    obtain ⟨i, inside, rfl⟩ := List.mem_iff_getElem.mp member
    rw [id_of_load loaded (List.getElem?_eq_getElem inside)] at below
    exact ⟨i, Nat.lt_min.mpr ⟨below, inside⟩, rfl⟩

theorem nodeId?_eq_some_iff {name : String} {id : NodeId} :
    t.nodeId? name = some id ↔ ∃ node ∈ t.nodes, node.name = name ∧ node.id = id := by
  rw [nodeId?, Option.map_eq_some_iff]
  constructor
  · rintro ⟨node, hit, own⟩
    exact ⟨node, List.mem_of_find?_eq_some hit, by simpa using List.find?_some hit, own⟩
  · rintro ⟨node, member, rfl, rfl⟩
    cases hit : t.nodes.find? (·.name == node.name) with
    | none => simpa using List.find?_eq_none.mp hit node member
    | some other =>
      have same : other.name = node.name := by simpa using List.find?_some hit
      have equal := List.inj_on_of_nodup_map (nodup_names_of_load loaded)
        (List.mem_of_find?_eq_some hit) member same
      exact ⟨other, rfl, congrArg Node.id equal⟩

end Loaded

end RelayMesh.Topology
