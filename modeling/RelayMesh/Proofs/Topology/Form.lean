import RelayMesh.Proofs.Document.Form
import RelayMesh.Topology.Form

namespace RelayMesh

open Document hiding read?
open Form (write read?)
open ReadsBack (read?_write)

@[simp] theorem writable_nodeKind (kind : NodeKind) : (write kind).Writable := .text _

@[simp] theorem writable_hopRole (role : HopRole) : (write role).Writable := .text _

instance : ReadsBack NodeKind := ⟨fun kind _ => by cases kind <;> rfl⟩

instance : ReadsBack HopRole := ⟨fun role _ => by cases role <;> rfl⟩

/-! ### Nodes -/

@[simp] theorem writable_node {n : Node} : (write n).Writable ↔ n.id < UInt64.size := by
  change Writable (.object [("id", write n.id), ("name", write n.name), ("kind", write n.kind)]) ↔ _
  simp [writable_object]

theorem read?_node (id name kind : Document) :
    read? (.object [("id", id), ("name", name), ("kind", kind)])
      = (do return Node.mk (← read? id) (← read? name) (← read? kind)) := by
  change (record? _ (.object _)).bind _ = _
  simp [record?_object, lookup_cons, required?]

instance : ReadsBack Node where
  read?_write n writable := by
    rw [writable_node] at writable
    refine (read?_node _ _ _).trans ?_
    simp [read?_write, writable]

/-! ### Edges -/

@[simp] theorem writable_edge {e : Edge} :
    (write e).Writable ↔
      e.a < UInt64.size ∧ e.b < UInt64.size ∧ ∀ x ∈ e.delay, x.isFinite = true := by
  change Writable (.object [("a", write e.a), ("b", write e.b), ("delay", write e.delay)]) ↔ _
  simp [writable_object]

theorem read?_edge (a b delay : Document) :
    read? (.object [("a", a), ("b", b), ("delay", delay)])
      = (do return Edge.mk (← read? a) (← read? b) (← optional? (some delay))) := by
  change (record? _ (.object _)).bind _ = _
  simp [record?_object, lookup_cons, required?]

instance : ReadsBack Edge where
  read?_write e writable := by
    rw [writable_edge] at writable
    refine (read?_edge _ _ _).trans ?_
    simp [read?_write, optional?_delay, writable]

/-! ### Attachments -/

@[simp] theorem writable_attachment {a : Attachment} :
    (write a).Writable ↔ a.relay < UInt64.size ∧ a.host < UInt64.size := by
  change Writable (.object [("track", write a.track), ("relay", write a.relay),
    ("role", write a.role), ("host", write a.host)]) ↔ _
  simp [writable_object]

theorem read?_attachment (track relay role host : Document) :
    read? (.object [("track", track), ("relay", relay), ("role", role), ("host", host)])
      = (do
        return Attachment.mk (← read? track) (← read? relay) (← read? role) (← read? host)) := by
  change (record? _ (.object _)).bind _ = _
  simp [record?_object, lookup_cons, required?]

instance : ReadsBack Attachment where
  read?_write a writable := by
    rw [writable_attachment] at writable
    refine (read?_attachment _ _ _ _).trans ?_
    simp [read?_write, writable]

/-! ### Topologies -/

@[simp] theorem writable_topology {t : Topology} :
    (write t).Writable ↔ (write t.nodes).Writable ∧ t.numRelays < UInt64.size ∧
      (write t.edges).Writable ∧ (write t.attachments).Writable ∧ t.control < UInt64.size := by
  change Writable (.object [("nodes", write t.nodes), ("num_relays", write t.numRelays),
    ("edges", write t.edges), ("attachments", write t.attachments),
    ("control", write t.control)]) ↔ _
  simp [writable_object]

theorem read?_topology (nodes numRelays edges attachments control : Document) :
    read? (.object [("nodes", nodes), ("num_relays", numRelays), ("edges", edges),
        ("attachments", attachments), ("control", control)])
      = (do
        return Topology.mk (← read? nodes) (← read? numRelays) (← read? edges)
          (← read? attachments) (← read? control)) := by
  change (record? _ (.object _)).bind _ = _
  simp [record?_object, lookup_cons, required?]

instance : ReadsBack Topology where
  read?_write t writable := by
    obtain ⟨nodes, numRelays, edges, attachments, control⟩ := writable_topology.mp writable
    refine (read?_topology _ _ _ _ _).trans ?_
    simp [read?_write _ nodes, read?_write _ edges, read?_write _ attachments, read?_write,
      numRelays, control]

end RelayMesh
