import RelayMesh.Addressing.Allocation
import RelayMesh.Configuration
import RelayMesh.Launch.Plan
import RelayMesh.Routing.Routes
import RelayMesh.Topology.Loader

namespace RelayMesh

structure Link where
  a : NodeId
  b : NodeId
  subnet : Network
deriving DecidableEq, Inhabited

structure NetworkPlan where
  mesh : MeshMode
  topology : Topology
  addresses : AddressPlan
  /-- The backbone links by their pairs, then the attachments, then the control segment. -/
  links : List Link
  interfaces : List Interface
  routes : List Route
  shaping : List LinkShaping
  launch : LaunchPlan
deriving DecidableEq, Inhabited

inductive PlanError where
  | topology (e : TopologyError)
  | allocation (e : AllocationError)
  | connectivity (e : ConnectivityError)
  | launch (e : LaunchError)
deriving DecidableEq

def PlanError.message : PlanError → String
  | .topology e => s!"Invalid topology: {e.message}"
  | .allocation e => s!"Address allocation failed: {e.message}"
  | .connectivity e => s!"Route synthesis failed: {e.message}"
  | .launch e => s!"Cannot build the launch plan: {e.message}"

namespace NetworkPlan

def backboneLink (l : BackboneLink) : Link := ⟨l.a, l.b, l.subnet.network⟩

def attachmentLink (a : AttachmentLink) : Link := ⟨a.relay, a.host, a.subnet.network⟩

def controlLinks (t : Topology) (c : ControlPlane) : List Link :=
  t.relayIds.map fun r => ⟨c.control, r, c.segment.network⟩

def linksOf (t : Topology) (p : AddressPlan) (pairs : List (NodeId × NodeId)) : List Link :=
  (pairs.filterMap fun (a, b) => p.backboneLink? a b).map backboneLink
    ++ p.attachments.map attachmentLink
    ++ controlLinks t p.control

/-- The plan of a document. The rules for delays are visited in the order of their keys. -/
def compile (c : Configuration) (doc : Document) : Except PlanError NetworkPlan := do
  let topology ← (Topology.load c.duplicateEdges doc).mapError .topology
  let addresses ← (c.addressing.allocate topology).mapError .allocation
  let routes ← (Routing.synthesize topology addresses c.mesh).mapError .connectivity
  let pairs := topology.links c.mesh
  let delays ← (c.delays.resolve topology).mapError .topology
  let launch ← (LaunchPlan.build topology addresses c.launch).mapError .launch
  return {
    mesh := c.mesh
    topology := topology
    addresses := addresses
    links := linksOf topology addresses pairs
    interfaces := addresses.interfaces (some pairs)
    routes := routes
    shaping := delays.shaping topology pairs
    launch := launch }

def certificateHosts (p : NetworkPlan) : List Address :=
  p.addresses.identityAddresses

def routesOf (p : NetworkPlan) (host : NodeId) : List Route :=
  p.routes.filter (·.onHost == host)

end NetworkPlan

end RelayMesh
