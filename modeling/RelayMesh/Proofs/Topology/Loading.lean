import RelayMesh.Proofs.Topology.Documents

namespace RelayMesh.Topology

open Checked (bind_ok pure_ok)
open Document (lookup)

theorem load_spec {policy : DuplicateEdges} {doc : Document} {t : Topology}
    (loaded : load policy doc = .ok t) :
    ∃ fields nodes names edges first last,
      doc = .object fields ∧ lookup "nodes" fields = some nodes ∧
      relayNames nodes = .ok names ∧ names ≠ [] ∧ edgeList policy names fields = .ok edges ∧
      hops names fields .firstHop = .ok first ∧ hops names fields .lastHop = .ok last ∧
      checkPublished t.attachments = .ok () ∧ t = assemble names edges first last := by
  cases doc with
  | object fields =>
    simp only [load] at loaded
    split at loaded
    · rename_i nodes found
      obtain ⟨names, read, loaded⟩ := bind_ok.mp loaded
      split at loaded
      · contradiction
      · rename_i some_relay
        simp only [bind_ok, pure_ok] at loaded
        obtain ⟨edges, he, first, hf, last, hl, _, published, rfl⟩ := loaded
        exact ⟨fields, nodes, names, edges, first, last, rfl, found, read, some_relay, he, hf, hl,
          published, rfl⟩
    · contradiction
  | _ => contradiction

theorem mem_attachmentsFrom {start : NodeId} {clients : List (HopRole × String × NodeId)}
    {a : Attachment} (member : a ∈ attachmentsFrom start clients) :
    (a.role, a.track, a.relay) ∈ clients ∧ start ≤ a.host := by
  simp only [attachmentsFrom, List.mem_map] at member
  obtain ⟨⟨⟨role, track, relay⟩, i⟩, place, rfl⟩ := member
  exact ⟨List.fst_mem_of_mem_zipIdx place, Nat.le_add_right start i⟩

theorem kind_of_numbered {entries : List (String × NodeKind)} {node : Node}
    (member : node ∈ numberedNodes entries) : entries[node.id]? = some (node.name, node.kind) := by
  simp only [numberedNodes, List.mem_map] at member
  obtain ⟨⟨⟨name, kind⟩, i⟩, place, rfl⟩ := member
  exact List.mk_mem_zipIdx_iff_getElem?.mp place

section Loaded

variable {policy : DuplicateEdges} {doc : Document} {t : Topology}

theorem edges_of_load (loaded : load policy doc = .ok t) {e : Edge} (member : e ∈ t.edges) :
    e.a < t.numRelays ∧ e.b < t.numRelays ∧ e.a ≠ e.b := by
  obtain ⟨_, _, _, _, _, _, _, _, _, _, read, _, _, _, rfl⟩ := load_spec loaded
  exact edgeList_spec read member

theorem attachments_of_load (loaded : load policy doc = .ok t) {a : Attachment}
    (member : a ∈ t.attachments) : a.relay < t.numRelays ∧ t.numRelays ≤ a.host := by
  obtain ⟨_, _, _, _, _, _, _, _, _, _, _, first, last, _, rfl⟩ := load_spec loaded
  obtain ⟨client, host⟩ := mem_attachmentsFrom member
  refine ⟨?_, host⟩
  rcases List.mem_append.mp client with client | client
  · obtain ⟨entry, listed, same⟩ := List.mem_map.mp client
    obtain ⟨_, rfl⟩ := Prod.mk.inj same
    exact hops_lt first listed
  · obtain ⟨entry, listed, same⟩ := List.mem_map.mp client
    obtain ⟨_, rfl⟩ := Prod.mk.inj same
    exact hops_lt last listed

theorem numRelays_pos_of_load (loaded : load policy doc = .ok t) : 0 < t.numRelays := by
  obtain ⟨_, _, names, _, _, _, _, _, _, some_relay, _, _, _, _, rfl⟩ := load_spec loaded
  exact List.length_pos_iff.mpr some_relay

theorem kind_of_load (loaded : load policy doc = .ok t) {node : Node} (member : node ∈ t.nodes)
    (inside : node.id < t.numRelays) : node.kind = .relay := by
  obtain ⟨_, _, names, _, _, _, _, _, _, _, _, _, _, _, rfl⟩ := load_spec loaded
  have entry := kind_of_numbered member
  rw [List.getElem?_append_left (by rw [List.length_map]; exact inside), List.getElem?_map] at entry
  obtain ⟨name, _, same⟩ := Option.map_eq_some_iff.mp entry
  exact (Prod.mk.inj same).2.symm

end Loaded

def squareDocument : Document :=
  let edge : Int × Int → Document := fun (x, y) => .object [("node1", .int x), ("node2", .int y)]
  .object [("nodes", .list [.text "a", .text "b", .text "c", .text "d"]),
    ("edges", .list ([(1, 2), (2, 4), (4, 3), (3, 1)].map edge)),
    ("first_hop_relay", .list [.object [("track", .text "v"), ("relay", .int 1)]]),
    ("last_hop_relay", .list [.object [("track", .text "v"), ("relay", .int 4)]])]

def square : Topology where
  nodes := [⟨0, "a", .relay⟩, ⟨1, "b", .relay⟩, ⟨2, "c", .relay⟩, ⟨3, "d", .relay⟩,
    ⟨4, "pub1", .publisher⟩, ⟨5, "sub1", .subscriber⟩, ⟨6, "api", .control⟩]
  numRelays := 4
  edges := [⟨0, 1, none⟩, ⟨1, 3, none⟩, ⟨3, 2, none⟩, ⟨2, 0, none⟩]
  attachments := [⟨"v", 0, .firstHop, 4⟩, ⟨"v", 3, .lastHop, 5⟩]
  control := 6

theorem load_square : load .firstWins squareDocument = .ok square := rfl

end RelayMesh.Topology
