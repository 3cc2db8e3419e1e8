import RelayMesh.Document.Form
import RelayMesh.Topology

namespace RelayMesh

open Document (record? required? optional? named?)
open Form (write)

def NodeKind.text : NodeKind → String
  | .relay => "relay"
  | .publisher => "publisher"
  | .subscriber => "subscriber"
  | .control => "control"

instance : Form NodeKind where
  write kind := .text kind.text
  read? := named? ([.relay, .publisher, .subscriber, .control].map fun k => (NodeKind.text k, k))

def HopRole.text : HopRole → String
  | .firstHop => "first_hop"
  | .lastHop => "last_hop"

instance : Form HopRole where
  write role := .text role.text
  read? := named? ([.firstHop, .lastHop].map fun r => (HopRole.text r, r))

def DuplicateEdges.text : DuplicateEdges → String
  | .firstWins => "first_wins"
  | .reject => "reject"

def DuplicateEdges.named? (name : String) : Option DuplicateEdges :=
  [.firstWins, .reject].find? fun p => DuplicateEdges.text p == name

instance : Form DuplicateEdges where
  write policy := .text policy.text
  read? := named? ([.firstWins, .reject].map fun p => (DuplicateEdges.text p, p))

instance : Form Node where
  write n := .object [("id", write n.id), ("name", write n.name), ("kind", write n.kind)]
  read? d := do
    match ← record? ["id", "name", "kind"] d with
    | [id, name, kind] => return ⟨← required? id, ← required? name, ← required? kind⟩
    | _ => none

instance : Form Edge where
  write e := .object [("a", write e.a), ("b", write e.b), ("delay", write e.delay)]
  read? d := do
    match ← record? ["a", "b", "delay"] d with
    | [a, b, delay] => return ⟨← required? a, ← required? b, ← optional? delay⟩
    | _ => none

instance : Form Attachment where
  write a := .object [("track", write a.track), ("relay", write a.relay), ("role", write a.role),
    ("host", write a.host)]
  read? d := do
    match ← record? ["track", "relay", "role", "host"] d with
    | [track, relay, role, host] =>
      return ⟨← required? track, ← required? relay, ← required? role, ← required? host⟩
    | _ => none

instance : Form Topology where
  write t := .object [("nodes", write t.nodes), ("num_relays", write t.numRelays),
    ("edges", write t.edges), ("attachments", write t.attachments), ("control", write t.control)]
  read? d := do
    match ← record? ["nodes", "num_relays", "edges", "attachments", "control"] d with
    | [nodes, numRelays, edges, attachments, control] =>
      return ⟨← required? nodes, ← required? numRelays, ← required? edges,
        ← required? attachments, ← required? control⟩
    | _ => none

end RelayMesh
