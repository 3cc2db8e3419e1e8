import RelayMesh.Addressing.Form
import RelayMesh.Delay
import RelayMesh.Document.Printer
import RelayMesh.Document.Reader
import RelayMesh.Launch.Form
import RelayMesh.NetworkPlan
import RelayMesh.Routing.Routes

namespace RelayMesh

open Document (record? required?)
open Form (write)

instance : Form Link where
  write l := .object [("a", write l.a), ("b", write l.b), ("subnet", write l.subnet)]
  read? d := do
    match ← record? ["a", "b", "subnet"] d with
    | [a, b, subnet] => return ⟨← required? a, ← required? b, ← required? subnet⟩
    | _ => none

instance : Form NetworkPlan where
  write p := .object [("mesh", write p.mesh), ("topology", write p.topology),
    ("addresses", write p.addresses), ("links", write p.links),
    ("interfaces", write p.interfaces), ("routes", write p.routes),
    ("shaping", write p.shaping), ("launch", write p.launch)]
  read? d := do
    match ← record? ["mesh", "topology", "addresses", "links", "interfaces", "routes", "shaping",
      "launch"] d with
    | [mesh, topology, addresses, links, interfaces, routes, shaping, launch] =>
      return ⟨← required? mesh, ← required? topology, ← required? addresses, ← required? links,
        ← required? interfaces, ← required? routes, ← required? shaping, ← required? launch⟩
    | _ => none

namespace NetworkPlan

def text (p : NetworkPlan) : String :=
  (write p).prettyText

def ofText? (text : String) : Option NetworkPlan :=
  (Document.read? text).bind Form.read?

end NetworkPlan

end RelayMesh
