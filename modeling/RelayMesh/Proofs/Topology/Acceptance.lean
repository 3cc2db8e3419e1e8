import RelayMesh.Proofs.Topology.WellFormed

namespace RelayMesh.Topology

open Checked (bind_ok pure_ok)
open Document (lookup)

structure Describes (policy : DuplicateEdges) (fields : List (String × Document))
    (names : List String) (edges : List Edge) (first last : List (String × NodeId)) : Prop where
  relays : ∃ nodes, lookup "nodes" fields = some nodes ∧ DeclaresRelays nodes names
  some_relay : names ≠ []
  distinct : names.Nodup
  links : ∃ items, HasItems fields "edges" items ∧ List.Forall₂ (DescribesEdge names) items edges
  no_loop : ∀ e ∈ edges, e.a ≠ e.b
  single : policy = .reject → (edges.map fun e => s(e.a, e.b)).Nodup
  publishers : ∃ items, HasItems fields "first_hop_relay" items ∧
    List.Forall₂ (DescribesHop names) items first
  subscribers : ∃ items, HasItems fields "last_hop_relay" items ∧
    List.Forall₂ (DescribesHop names) items last
  published : ∀ hop ∈ last, ∃ other ∈ first, other.1 = hop.1

def Valid (policy : DuplicateEdges) (doc : Document) : Prop :=
  ∃ fields names edges first last, doc = .object fields ∧
    Describes policy fields names edges first last

theorem exists_attachment (start : NodeId) {clients : List (HopRole × String × NodeId)}
    {client : HopRole × String × NodeId} (member : client ∈ clients) :
    ∃ a ∈ attachmentsFrom start clients, a.role = client.1 ∧ a.track = client.2.1 := by
  obtain ⟨k, place⟩ := List.mem_iff_getElem?.mp member
  have attached : (attachmentsFrom start clients)[k]? =
      some ⟨client.2.1, client.2.2, client.1, start + k⟩ := by
    rw [getElem?_attachmentsFrom, place, Option.map_some]
  exact ⟨_, List.mem_of_getElem? attached, rfl, rfl⟩

theorem checkPublished_assemble {names : List String} {edges : List Edge}
    {first last : List (String × NodeId)} :
    checkPublished (assemble names edges first last).attachments = .ok () ↔
      ∀ hop ∈ last, ∃ other ∈ first, other.1 = hop.1 := by
  rw [checkPublished_ok, attachments_assemble]
  constructor
  · intro published hop member
    obtain ⟨a, listed, role, track⟩ := exists_attachment names.length
      (List.mem_append_right _ (List.mem_map_of_mem member))
    obtain ⟨b, client, first_hop, same⟩ := published a listed role
    have entry := (mem_attachmentsFrom client).1
    simp only [clientList, first_hop, List.mem_append, List.mem_map] at entry
    rcases entry with ⟨other, listed, same_entry⟩ | ⟨other, _, same_entry⟩
    · refine ⟨other, listed, ?_⟩
      rw [← track, ← same, (Prod.mk.inj same_entry).2]
    · cases same_entry
  · intro published a listed last_hop
    have entry := (mem_attachmentsFrom listed).1
    simp only [clientList, last_hop, List.mem_append, List.mem_map] at entry
    rcases entry with ⟨hop, _, same_entry⟩ | ⟨hop, member, same_entry⟩
    · cases same_entry
    · obtain ⟨other, published, same⟩ := published hop member
      obtain ⟨b, client, role, track⟩ := exists_attachment names.length
        (List.mem_append_left _ (List.mem_map_of_mem published))
      refine ⟨b, client, role, ?_⟩
      rw [track, same, (Prod.mk.inj same_entry).2]

theorem load_ok_iff {policy : DuplicateEdges} {doc : Document} {t : Topology} :
    load policy doc = .ok t ↔ ∃ fields names edges first last, doc = .object fields ∧
      Describes policy fields names edges first last ∧ t = assemble names edges first last := by
  constructor
  · intro loaded
    obtain ⟨fields, nodes, names, edges, first, last, rfl, found, read, some_relay, links, pubs,
      subs, published, rfl⟩ := load_spec loaded
    obtain ⟨declared, _, distinct⟩ := relayNames_ok.mp ⟨read, some_relay⟩
    obtain ⟨described, no_loop, single⟩ := edgeList_ok.mp links
    exact ⟨fields, names, edges, first, last, rfl,
      { relays := ⟨nodes, found, declared⟩
        some_relay := some_relay
        distinct := distinct
        links := described
        no_loop := no_loop
        single := single
        publishers := hops_ok.mp pubs
        subscribers := hops_ok.mp subs
        published := checkPublished_assemble.mp published }, rfl⟩
  · rintro ⟨fields, names, edges, first, last, rfl, described, rfl⟩
    obtain ⟨nodes, found, declared⟩ := described.relays
    have distinct := described.distinct
    have read := (relayNames_ok.mpr ⟨declared, described.some_relay, distinct⟩).1
    have links := edgeList_ok.mpr ⟨described.links, described.no_loop, described.single⟩
    have pubs : hops names fields .firstHop = .ok first :=
      hops_ok.mpr described.publishers
    have subs : hops names fields .lastHop = .ok last :=
      hops_ok.mpr described.subscribers
    have published : checkPublished (assemble names edges first last).attachments = .ok () :=
      checkPublished_assemble.mpr described.published
    simp only [load, found]
    refine bind_ok.mpr ⟨names, read, ?_⟩
    simp only [if_neg described.some_relay, bind_ok, pure_ok]
    exact ⟨edges, links, first, pubs, last, subs, (), published, rfl⟩

/-- A topology is loaded from the valid documents and from no others. -/
theorem load_accepts_valid (policy : DuplicateEdges) (doc : Document) :
    (∃ t, load policy doc = .ok t) ↔ Valid policy doc := by
  simp only [load_ok_iff, Valid]
  constructor
  · rintro ⟨t, fields, names, edges, first, last, same, described, _⟩
    exact ⟨fields, names, edges, first, last, same, described⟩
  · rintro ⟨fields, names, edges, first, last, same, described⟩
    exact ⟨_, fields, names, edges, first, last, same, described, rfl⟩

end RelayMesh.Topology
