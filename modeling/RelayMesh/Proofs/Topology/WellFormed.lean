import RelayMesh.Proofs.Topology.Loading
import RelayMesh.Proofs.Topology.Names

namespace RelayMesh

def Node.isClient (node : Node) : Bool :=
  node.kind == .publisher || node.kind == .subscriber

def NodeKind.isClient (kind : NodeKind) : Bool :=
  kind == .publisher || kind == .subscriber

namespace Topology

section Numbered

variable (entries : List (String × NodeKind))

theorem getElem?_numberedNodes (i : Nat) :
    (numberedNodes entries)[i]? = entries[i]?.map fun (name, kind) => ⟨i, name, kind⟩ := by
  simp [numberedNodes, Function.comp_def]

theorem names_numberedNodes : (numberedNodes entries).map (·.name) = entries.map (·.1) := by
  conv_rhs => rw [← List.zipIdx_map_fst 0 entries]
  rw [numberedNodes, List.map_map, List.map_map]
  rfl

theorem kinds_numberedNodes : (numberedNodes entries).map (·.kind) = entries.map (·.2) := by
  conv_rhs => rw [← List.zipIdx_map_fst 0 entries]
  rw [numberedNodes, List.map_map, List.map_map]
  rfl

end Numbered

theorem getElem?_attachmentsFrom (start : NodeId) (clients : List (HopRole × String × NodeId))
    (k : Nat) : (attachmentsFrom start clients)[k]? =
      clients[k]?.map fun (role, track, relay) => ⟨track, relay, role, start + k⟩ := by
  simp [attachmentsFrom, Function.comp_def]

theorem roles_attachmentsFrom (start : NodeId) (clients : List (HopRole × String × NodeId)) :
    (attachmentsFrom start clients).map (·.role) = clients.map (·.1) := by
  conv_rhs => rw [← List.zipIdx_map_fst 0 clients]
  rw [attachmentsFrom, List.map_map, List.map_map]
  rfl

/-- Ids are places, and the nodes are relays, publishers, subscribers and the control node, in this
order. Each attachment has a client of its own, in the same order, of the kind that its role calls
for. Names tell all nodes apart. Edges connect different relays, delays are finite and not below
zero, attachments lead to relays, and what is subscribed is also published. -/
structure WellFormed (t : Topology) : Prop where
  numbered : ∀ (i : Nat) (node : Node), t.nodes[i]? = some node → node.id = i
  someRelay : 1 ≤ t.numRelays
  kinds : ∃ publishers subscribers,
    t.nodes.map (·.kind) = List.replicate t.numRelays .relay ++
      List.replicate publishers .publisher ++ List.replicate subscribers .subscriber ++
      [.control] ∧
    t.attachments.map (·.role) =
      List.replicate publishers .firstHop ++ List.replicate subscribers .lastHop
  control : ∀ node ∈ t.nodes, node.kind = .control ↔ node.id = t.control
  named : ∀ node ∈ t.nodes, node.name ≠ ""
  distinct : (t.nodes.map (·.name)).Nodup
  found : ∀ node ∈ t.nodes, t.nodeId? (t.name node.id) = some node.id
  hosts : ∀ (k : Nat) (a : Attachment), t.attachments[k]? = some a → a.host = t.numRelays + k
  clients : t.attachments.map (·.host) = (t.nodes.filter (·.isClient)).map (·.id)
  fitting : ∀ a ∈ t.attachments, ∃ node ∈ t.nodes, node.id = a.host ∧ node.kind = clientKind a.role
  attached : ∀ a ∈ t.attachments, a.relay < t.numRelays
  edges : ∀ e ∈ t.edges, e.a < t.numRelays ∧ e.b < t.numRelays ∧ e.a ≠ e.b
  delays : ∀ e ∈ t.edges, ∀ x, e.delay = some x → x.isFinite = true ∧ Binary64.zero.le x = true
  published : ∀ a ∈ t.attachments, a.role = .lastHop →
    ∃ b ∈ t.attachments, b.role = .firstHop ∧ b.track = a.track

section Assembled

variable (names : List String) (edges : List Edge) (first last : List (String × NodeId))

/-- The clients of a topology: the role, the track and the relay of each. -/
def clientList : List (HopRole × String × NodeId) :=
  first.map (HopRole.firstHop, ·) ++ last.map (HopRole.lastHop, ·)

def wantedNames : List String :=
  first.zipIdx.map (clientName .firstHop ·.2) ++ last.zipIdx.map (clientName .lastHop ·.2) ++
    [controlName]

def clientKinds : List NodeKind :=
  (clientList first last).map (clientKind ·.1)

theorem length_clientList : (clientList first last).length = first.length + last.length := by
  simp [clientList]

theorem length_clientKinds : (clientKinds first last).length = first.length + last.length := by
  rw [clientKinds, List.length_map, length_clientList]

theorem roles_clientList : (clientList first last).map (·.1) =
    List.replicate first.length .firstHop ++ List.replicate last.length .lastHop := by
  simp [clientList, Function.comp_def, List.map_const']

theorem clientKinds_eq : clientKinds first last =
    List.replicate first.length .publisher ++ List.replicate last.length .subscriber := by
  have kinds : clientKinds first last = ((clientList first last).map (·.1)).map clientKind := by
    rw [clientKinds, List.map_map]
    rfl
  rw [kinds, roles_clientList, List.map_append, List.map_replicate, List.map_replicate]
  rfl

theorem wantedNames_ne_empty : ∀ name ∈ wantedNames first last, name ≠ "" := by
  intro name member
  have client : ∀ role i, clientName role i ≠ "" := by
    intro role i empty
    have text := congrArg String.toList empty
    cases role <;> simp [clientName, String.toList_append] at text
  simp only [wantedNames, List.mem_append, List.mem_map, List.mem_singleton] at member
  rcases member with (⟨_, _, rfl⟩ | ⟨_, _, rfl⟩) | rfl
  · exact client _ _
  · exact client _ _
  · decide

theorem nodes_assemble : (assemble names edges first last).nodes =
    numberedNodes (names.map ((·, NodeKind.relay)) ++
      (freeNames names (wantedNames first last)).zip (clientKinds first last ++ [.control])) := rfl

theorem attachments_assemble : (assemble names edges first last).attachments =
    attachmentsFrom names.length (clientList first last) := rfl

theorem control_assemble : (assemble names edges first last).control =
    names.length + (first.length + last.length) := by
  rw [← length_clientList]
  rfl

theorem length_generated : (freeNames names (wantedNames first last)).length =
    (clientKinds first last ++ [NodeKind.control]).length := by
  simp [length_freeNames, wantedNames, length_clientKinds, Nat.add_assoc]

theorem names_assemble : (assemble names edges first last).nodes.map (·.name) =
    names ++ freeNames names (wantedNames first last) := by
  rw [nodes_assemble, names_numberedNodes, List.map_append,
    List.map_fst_zip (Nat.le_of_eq (length_generated names first last)), List.map_map]
  exact congrArg (· ++ _) (List.map_id names)

theorem kinds_assemble : (assemble names edges first last).nodes.map (·.kind) =
    List.replicate names.length .relay ++ clientKinds first last ++ [.control] := by
  rw [nodes_assemble, kinds_numberedNodes, List.map_append,
    List.map_snd_zip (Nat.le_of_eq (length_generated names first last).symm), List.map_map,
    List.append_assoc]
  exact congrArg (· ++ _) (List.map_const' ..)

theorem roles_assemble : (assemble names edges first last).attachments.map (·.role) =
    List.replicate first.length .firstHop ++ List.replicate last.length .lastHop := by
  rw [attachments_assemble, roles_attachmentsFrom, roles_clientList]

theorem numbered_assemble {i : Nat} {node : Node}
    (place : (assemble names edges first last).nodes[i]? = some node) : node.id = i := by
  rw [nodes_assemble, getElem?_numberedNodes] at place
  obtain ⟨entry, _, rfl⟩ := Option.map_eq_some_iff.mp place
  rfl

theorem mem_nodes_assemble {node : Node} (member : node ∈ (assemble names edges first last).nodes) :
    (assemble names edges first last).nodes[node.id]? = some node := by
  obtain ⟨i, place⟩ := List.mem_iff_getElem?.mp member
  rwa [numbered_assemble names edges first last place]

theorem kind_at {i : Nat} {kind : NodeKind}
    (place : (List.replicate names.length NodeKind.relay ++ clientKinds first last ++
      [.control])[i]? = some kind) :
    ∃ node ∈ (assemble names edges first last).nodes, node.id = i ∧ node.kind = kind := by
  rw [← kinds_assemble names edges, List.getElem?_map] at place
  obtain ⟨node, found, same⟩ := Option.map_eq_some_iff.mp place
  exact ⟨node, List.mem_of_getElem? found, numbered_assemble names edges first last found, same⟩

theorem control_iff {node : Node} (member : node ∈ (assemble names edges first last).nodes) :
    node.kind = .control ↔ node.id = (assemble names edges first last).control := by
  have place := congrArg (Option.map (·.kind)) (mem_nodes_assemble names edges first last member)
  rw [← List.getElem?_map, kinds_assemble, Option.map_some, clientKinds_eq] at place
  rw [control_assemble]
  grind

theorem kindIds_assemble :
    (assemble names edges first last).nodes.map (fun node => (node.kind, node.id)) =
      (List.replicate names.length NodeKind.relay ++ clientKinds first last ++
        [NodeKind.control]).zipIdx := by
  apply List.ext_getElem?
  intro i
  rw [← kinds_assemble names edges, List.getElem?_zipIdx, List.getElem?_map, List.getElem?_map,
    Option.map_map, Nat.zero_add]
  apply Option.map_congr
  intro node place
  rw [Function.comp_apply, numbered_assemble names edges first last place]

theorem isClient_clientKinds : ∀ kind ∈ clientKinds first last, kind.isClient = true := by
  intro kind member
  obtain ⟨⟨role, _⟩, _, rfl⟩ := List.mem_map.mp member
  cases role <;> rfl

theorem clients_assemble :
    ((assemble names edges first last).nodes.filter (·.isClient)).map (·.id) =
      List.range' names.length (first.length + last.length) := by
  have kinds : ((assemble names edges first last).nodes.filter (·.isClient)).map (·.id) =
      (((assemble names edges first last).nodes.map (fun node => (node.kind, node.id))).filter
        (fun entry => entry.1.isClient)).map (·.2) := by
    rw [List.filter_map, List.map_map]
    rfl
  have relays : (List.replicate names.length NodeKind.relay).zipIdx.filter
      (fun entry => entry.1.isClient) = [] := by
    rw [List.filter_eq_nil_iff]
    intro entry member
    rw [List.eq_of_mem_replicate (List.fst_mem_of_mem_zipIdx member)]
    decide
  have clients : ((clientKinds first last).zipIdx names.length).filter
      (fun entry => entry.1.isClient) = (clientKinds first last).zipIdx names.length :=
    List.filter_eq_self.mpr fun entry member =>
      isClient_clientKinds first last entry.1 (List.fst_mem_of_mem_zipIdx member)
  rw [kinds, kindIds_assemble, List.zipIdx_append, List.zipIdx_append, List.filter_append,
    List.filter_append, relays, List.nil_append, List.length_replicate, Nat.zero_add, clients,
    List.map_append, List.zipIdx_map_snd, length_clientKinds]
  exact List.append_nil _

theorem hosts_assemble : (assemble names edges first last).attachments.map (·.host) =
    List.range' names.length (first.length + last.length) := by
  rw [← length_clientList, ← List.zipIdx_map_snd names.length (clientList first last),
    attachments_assemble, attachmentsFrom, List.map_map]
  conv_rhs => rw [List.zipIdx_eq_map_add, List.map_map]
  exact List.map_congr_left fun entry _ => rfl

theorem fitting_assemble {a : Attachment}
    (member : a ∈ (assemble names edges first last).attachments) :
    ∃ node ∈ (assemble names edges first last).nodes,
      node.id = a.host ∧ node.kind = clientKind a.role := by
  obtain ⟨k, place⟩ := List.mem_iff_getElem?.mp member
  rw [attachments_assemble, getElem?_attachmentsFrom] at place
  obtain ⟨⟨role, track, relay⟩, client, rfl⟩ := Option.map_eq_some_iff.mp place
  apply kind_at names edges first last
  have kind : (clientKinds first last)[k]? = some (clientKind role) := by
    rw [clientKinds, List.getElem?_map, client]
    rfl
  have below := (List.getElem?_eq_some_iff.mp kind).1
  rw [List.append_assoc, List.getElem?_append_right (by simp), List.length_replicate,
    Nat.add_sub_cancel_left, List.getElem?_append_left below, kind]

theorem nodeId?_assemble {node : Node} (member : node ∈ (assemble names edges first last).nodes)
    (distinct : ((assemble names edges first last).nodes.map (·.name)).Nodup) :
    (assemble names edges first last).nodeId? ((assemble names edges first last).name node.id) =
      some node.id := by
  have place := mem_nodes_assemble names edges first last member
  have own : (assemble names edges first last).name node.id = node.name := by
    rw [name, place]
    rfl
  rw [nodeId?, own]
  cases hit : (assemble names edges first last).nodes.find? (·.name == node.name) with
  | none => simpa using List.find?_eq_none.mp hit node member
  | some other =>
    have same : other.name = node.name := by simpa using List.find?_some hit
    have equal := List.inj_on_of_nodup_map distinct (List.mem_of_find?_eq_some hit) member same
    rw [equal]
    rfl

end Assembled

/-- Whatever a document holds, a topology that is loaded from it is well formed. -/
theorem wellFormed_of_load {policy : DuplicateEdges} {doc : Document} {t : Topology}
    (loaded : load policy doc = .ok t) : WellFormed t := by
  obtain ⟨fields, nodes, names, edges, first, last, _, _, named, filled, listed, _, _, published,
    rfl⟩ := load_spec loaded
  have relays := relayNames_spec named
  have distinct : ((assemble names edges first last).nodes.map (·.name)).Nodup := by
    rw [names_assemble]
    exact nodup_freeNames relays.1
  constructor
  · exact fun i node place => numbered_assemble names edges first last place
  · exact List.length_pos_iff.mpr filled
  · refine ⟨first.length, last.length, ?_, roles_assemble names edges first last⟩
    rw [kinds_assemble, clientKinds_eq, ← List.append_assoc]
    rfl
  · exact fun node member => control_iff names edges first last member
  · intro node member
    have name := List.mem_map_of_mem (f := Node.name) member
    rw [names_assemble] at name
    rcases List.mem_append.mp name with name | name
    · exact relays.2 _ name
    · exact freeNames_ne_empty (wantedNames_ne_empty first last) _ name
  · exact distinct
  · exact fun node member => nodeId?_assemble names edges first last member distinct
  · intro k a place
    rw [attachments_assemble, getElem?_attachmentsFrom] at place
    obtain ⟨client, _, rfl⟩ := Option.map_eq_some_iff.mp place
    rfl
  · rw [hosts_assemble, clients_assemble]
  · exact fun a member => fitting_assemble names edges first last member
  · exact fun a member => (attachments_of_load loaded member).1
  · exact fun e member => edges_of_load loaded member
  · exact fun e member x own => isDelay_spec (edgeList_delay listed member own)
  · exact fun a member role => checkPublished_spec published member role

def clashingDocument : Document :=
  .object [("nodes", .list [.text "pub1", .text "api", .object [("name", .text "pub1-2")]]),
    ("edges", .list [.object [("node1", .text "api"), ("node2", .int 3),
      ("delay", .text "2.5 ms")]]),
    ("first_hop_relay", .list [.object [("track", .text "v"), ("relay", .text "2")]]),
    ("last_hop_relay", .list [.object [("track", .text "v"), ("node", .text "pub1")]])]

def clashing : Topology where
  nodes := [⟨0, "pub1", .relay⟩, ⟨1, "api", .relay⟩, ⟨2, "pub1-2", .relay⟩,
    ⟨3, "pub1-3", .publisher⟩, ⟨4, "sub1", .subscriber⟩, ⟨5, "api-2", .control⟩]
  numRelays := 3
  edges := [⟨1, 2, some ⟨0x4004000000000000⟩⟩]
  attachments := [⟨"v", 1, .firstHop, 3⟩, ⟨"v", 0, .lastHop, 4⟩]
  control := 5

theorem wellFormed_clashing :
    load .reject clashingDocument = .ok clashing ∧ WellFormed clashing :=
  have loaded : load .reject clashingDocument = .ok clashing := by decide +kernel
  ⟨loaded, wellFormed_of_load loaded⟩

end Topology

end RelayMesh
