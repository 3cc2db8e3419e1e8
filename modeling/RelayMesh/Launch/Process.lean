import RelayMesh.Network.Address
import RelayMesh.Text.Basic
import RelayMesh.Topology

namespace RelayMesh

structure LaunchSettings where
  relayBinary : String := "./target/debug/moq-relay"
  publisherBinary : String := "./target/debug/moq-pub"
  subscriberBinary : String := "./target/debug/moq-sub"
  apiBinary : String := "./dev/api"
  relayPort : UInt16 := 4443
  tlsCert : String := "./dev/localhost.crt"
  tlsKey : String := "./dev/localhost.key"
  /-- Whether certificates are verified; those made for development are self-signed. -/
  tlsVerify : Bool := false
  relayLogLevel : String := "debug"
  clientLogLevel : String := "info"
  readyTimeout : UInt64 := 30000
  pollInterval : UInt64 := 200
  checkTimeout : UInt64 := 500
  hostCommand : List String := ["ip", "netns", "exec", "\x7bhost\x7d"]
deriving DecidableEq, Inhabited

inductive Probe where
  | apiReachable (url : String)
  | relayListening (socket : SocketAddress)
  /-- The control node knows an origin of the track at the relay with the given id, the last octet
  of its identity. -/
  | trackAnnounced (api : String) (relayId : UInt8) (track : String)
  | started
deriving DecidableEq

def Probe.text : Probe → String
  | .apiReachable url => s!"control API at {url}"
  | .relayListening socket => s!"relay listening on {socket}"
  | .trackAnnounced _ _ track => s!"announcement of {track}"
  | .started => "process start"

def withoutFinalSlashes (s : String) : String :=
  String.ofList (s.toList.reverse.dropWhile (· == '/')).reverse

def originUrl (api : String) (relayId : UInt8) (track : String) : String :=
  s!"{withoutFinalSlashes api}/origin/{relayId.toNat}/{track}"

/-- A time in milliseconds in its largest fitting unit. Seconds keep the digits of their fraction
up to the last that is not zero. -/
def durationText (milliseconds : Nat) : String :=
  let seconds := milliseconds / 1000
  let fraction := ((Text.padded 3 (milliseconds % 1000)).reverse.dropWhile (· == '0')).reverse
  if milliseconds = 0 then "0ns"
  else if seconds = 0 then s!"{milliseconds}ms"
  else if fraction = [] then s!"{seconds}s"
  else s!"{seconds}.{String.ofList fraction}s"

inductive LaunchError where
  | spawn (host binary reason : String)
  | notReady (host : String) (probe : Probe) (timeout : UInt64)
  | check (host reason : String)
  | missingAddress (name : String)
deriving DecidableEq

def LaunchError.message : LaunchError → String
  | .spawn host binary reason => s!"Cannot spawn {binary} on {host}: {reason}"
  | .notReady host probe timeout =>
    s!"{host} did not become ready within {durationText timeout.toNat} (waiting for {probe.text})"
  | .check host reason => s!"Readiness check of {host} failed: {reason}"
  | .missingAddress name => s!"No address is allocated for {name}"

structure ProcessSpec where
  node : NodeId
  host : String
  binary : String
  args : List String
  env : List (String × String)
  probe : Probe
deriving DecidableEq

def hostPlaceholder : String := "\x7bhost\x7d"

def expandHost (host word : String) : String :=
  String.ofList (Text.replaceAll hostPlaceholder.toList host.toList word.toList)

def ProcessSpec.commandLine (hostCommand : List String) (spec : ProcessSpec) : List String :=
  hostCommand.map (expandHost spec.host) ++ spec.binary :: spec.args

inductive StageKind where
  | control
  | relays
  | publishers
  | subscribers
deriving DecidableEq, Inhabited

structure LaunchStage where
  kind : StageKind
  processes : List ProcessSpec
deriving DecidableEq, Inhabited

structure LaunchPlan where
  stages : List LaunchStage
deriving DecidableEq, Inhabited

def LaunchPlan.processes (p : LaunchPlan) : List ProcessSpec :=
  p.stages.flatMap (·.processes)

end RelayMesh
