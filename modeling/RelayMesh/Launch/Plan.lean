import RelayMesh.Addressing.Plan
import RelayMesh.Launch.Process

namespace RelayMesh

namespace LaunchPlan

def apiUrl (p : AddressPlan) : String :=
  s!"http://{p.control.controlAddress}"

def relayUrl (settings : LaunchSettings) (identity : Address) : String :=
  s!"https://{identity}:{settings.relayPort.toNat}"

def tlsFlags (settings : LaunchSettings) : List String :=
  if settings.tlsVerify then [] else ["--tls-disable-verify"]

def identity (t : Topology) (p : AddressPlan) (relay : NodeId) : Except LaunchError Address :=
  match p.identity? relay with
  | some address => .ok address
  | none => .error (.missingAddress (t.name relay))

def apiProcess (t : Topology) (p : AddressPlan) (settings : LaunchSettings) : ProcessSpec where
  node := p.control.control
  host := t.name p.control.control
  binary := settings.apiBinary
  args := []
  env := [("REDIS", p.control.uplinkPeerAddress.toString)]
  probe := .apiReachable (apiUrl p)

def relayProcess (t : Topology) (p : AddressPlan) (settings : LaunchSettings) (relay : NodeId) :
    Except LaunchError ProcessSpec := do
  let address ← identity t p relay
  let socket : SocketAddress := ⟨address, settings.relayPort⟩
  return {
    node := relay
    host := t.name relay
    binary := settings.relayBinary
    args := ["--bind", socket.toString, "--api", apiUrl p, "--node", relayUrl settings address,
      "--tls-cert", settings.tlsCert, "--tls-key", settings.tlsKey]
      ++ tlsFlags settings ++ ["--dev"]
    env := [("RUST_LOG", settings.relayLogLevel), ("RUST_BACKTRACE", "0")]
    probe := .relayListening socket }

/-- A publisher is ready once its track is announced; a subscriber need not wait. -/
def clientProbe (p : AddressPlan) (a : Attachment) (relayAddress : Address) : Probe :=
  match a.role with
  | .firstHop => .trackAnnounced (apiUrl p) relayAddress.lastOctet a.track
  | .lastHop => .started

def clientBinary (settings : LaunchSettings) : HopRole → String
  | .firstHop => settings.publisherBinary
  | .lastHop => settings.subscriberBinary

def clientProcess (t : Topology) (p : AddressPlan) (settings : LaunchSettings) (a : Attachment) :
    Except LaunchError ProcessSpec := do
  let relayAddress ← identity t p a.relay
  return {
    node := a.host
    host := t.name a.host
    binary := clientBinary settings a.role
    args := ["--name", a.track, relayUrl settings relayAddress] ++ tlsFlags settings
    env := [("RUST_LOG", settings.clientLogLevel)]
    probe := clientProbe p a relayAddress }

def clientProcesses (t : Topology) (p : AddressPlan) (settings : LaunchSettings) (role : HopRole) :
    Except LaunchError (List ProcessSpec) :=
  (t.attachments.filter (·.role == role)).mapM (clientProcess t p settings)

def build (t : Topology) (p : AddressPlan) (settings : LaunchSettings) :
    Except LaunchError LaunchPlan := do
  let relays ← t.relayIds.mapM (relayProcess t p settings)
  let publishers ← clientProcesses t p settings .firstHop
  let subscribers ← clientProcesses t p settings .lastHop
  return ⟨[⟨.control, [apiProcess t p settings]⟩, ⟨.relays, relays⟩, ⟨.publishers, publishers⟩,
    ⟨.subscribers, subscribers⟩]⟩

end LaunchPlan

end RelayMesh
