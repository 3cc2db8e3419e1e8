import RelayMesh.Addressing.Plan
import RelayMesh.Document.Form
import RelayMesh.Routing.Hops
import RelayMesh.Routing.Mesh

/-!
Static routes of a mesh. Every relay gets a route to the identity of every other relay, and every
client one to the identity of its own relay. Between relays without a common link a route goes to
the lowest neighbour that is one hop closer.
-/

namespace RelayMesh

structure Route where
  onHost : NodeId
  destination : Address
  via : Address
deriving DecidableEq, Inhabited

def Route.text (r : Route) : String :=
  s!"{r.onHost} {r.destination} via {r.via}"

inductive ConnectivityError where
  | disconnected (components : Nat) (source target : String)
  | missingLink (a b : NodeId)
  | missingAddress (node : NodeId)
deriving DecidableEq

def ConnectivityError.message : ConnectivityError → String
  | .disconnected components source target =>
    s!"The relay mesh is disconnected: {components} components, `{source}` cannot reach `{target}`"
  | .missingLink a b => s!"No backbone subnet is allocated between relay {a} and relay {b}"
  | .missingAddress node => s!"No address is allocated for node {node}"

namespace Routing

def identity (p : AddressPlan) (relay : NodeId) : Except ConnectivityError Address :=
  match p.identity? relay with
  | some address => .ok address
  | none => .error (.missingAddress relay)

def nextHopAddress (p : AddressPlan) (source next : NodeId) : Except ConnectivityError Address :=
  match (p.backboneLink? source next).bind (·.addressOf? next) with
  | some address => .ok address
  | none => .error (.missingLink source next)

def routeOver (p : AddressPlan) (source target next : NodeId) :
    Except ConnectivityError Route := do
  let destination ← identity p target
  let via ← nextHopAddress p source next
  return ⟨source, destination, via⟩

def relayJourneys (t : Topology) : List (NodeId × NodeId) :=
  t.relayIds.flatMap fun source =>
    (t.relayIds.filter (· != source)).map fun target => (source, target)

def fullMeshRoutes (t : Topology) (p : AddressPlan) : Except ConnectivityError (List Route) :=
  (relayJourneys t).mapM fun (source, target) => routeOver p source target target

def declaredGraph (t : Topology) : MeshGraph :=
  ⟨t.numRelays, t.declaredPairs⟩

def nextHop? (neighbours : List NodeId) (tables : Array HopTable) (target distance : Nat) :
    Option NodeId :=
  (neighbours.filter fun x => (MeshGraph.hops? tables x target).any (· + 1 == distance)).min?

/-- The route from one relay to another along a shortest path of declared edges. -/
def shortestPathRoute (t : Topology) (p : AddressPlan) (g : MeshGraph) (tables : Array HopTable)
    (source target : NodeId) : Except ConnectivityError Route :=
  match MeshGraph.hops? tables source target with
  | none => .error (.disconnected (g.components tables) (t.name source) (t.name target))
  | some distance =>
    match nextHop? (g.neighbours source) tables target distance with
    | none => .error (.missingLink source target)
    | some next => routeOver p source target next

def shortestPathRoutes (t : Topology) (p : AddressPlan) :
    Except ConnectivityError (List Route) :=
  let g := declaredGraph t
  let tables := g.distances
  (relayJourneys t).mapM fun (source, target) => shortestPathRoute t p g tables source target

def meshRoutes (t : Topology) (p : AddressPlan) : MeshMode → Except ConnectivityError (List Route)
  | .full => fullMeshRoutes t p
  | .declared => shortestPathRoutes t p

def clientRoutes (p : AddressPlan) : Except ConnectivityError (List Route) :=
  p.attachments.mapM fun a => do
    let destination ← identity p a.relay
    return ⟨a.host, destination, a.relayAddress⟩

def synthesize (t : Topology) (p : AddressPlan) (mode : MeshMode) :
    Except ConnectivityError (List Route) := do
  let relays ← meshRoutes t p mode
  let clients ← clientRoutes p
  return relays ++ clients

end Routing

open Document (record? required?)
open Form (write)

instance : Form Route where
  write r := .object [("on_host", write r.onHost), ("destination", write r.destination),
    ("via", write r.via)]
  read? d := do
    match ← record? ["on_host", "destination", "via"] d with
    | [onHost, destination, via] =>
      return ⟨← required? onHost, ← required? destination, ← required? via⟩
    | _ => none

end RelayMesh
