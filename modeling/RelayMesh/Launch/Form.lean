import RelayMesh.Document.Form
import RelayMesh.Launch.Process

namespace RelayMesh

open Document (record? required? named? tagged?)
open Form (write)

instance : Form Probe where
  write
    | .apiReachable url => .object [("kind", .text "api_reachable"), ("url", write url)]
    | .relayListening socket => .object [("kind", .text "relay_listening"), ("addr", write socket)]
    | .trackAnnounced api relayId track => .object [("kind", .text "track_announced"),
      ("api", write api), ("relay_id", write relayId), ("track", write track)]
    | .started => .object [("kind", .text "started")]
  read? d := do
    match ← tagged? "kind" d with
    | ("api_reachable", rest) =>
      match ← record? ["url"] rest with
      | [url] => return .apiReachable (← required? url)
      | _ => none
    | ("relay_listening", rest) =>
      match ← record? ["addr"] rest with
      | [socket] => return .relayListening (← required? socket)
      | _ => none
    | ("track_announced", rest) =>
      match ← record? ["api", "relay_id", "track"] rest with
      | [api, relayId, track] =>
        return .trackAnnounced (← required? api) (← required? relayId) (← required? track)
      | _ => none
    | ("started", rest) =>
      match ← record? [] rest with
      | [] => return .started
      | _ => none
    | _ => none

instance : Form ProcessSpec where
  write s := .object [("node", write s.node), ("host", write s.host), ("binary", write s.binary),
    ("args", write s.args), ("env", write s.env), ("probe", write s.probe)]
  read? d := do
    match ← record? ["node", "host", "binary", "args", "env", "probe"] d with
    | [node, host, binary, args, env, probe] =>
      return ⟨← required? node, ← required? host, ← required? binary, ← required? args,
        ← required? env, ← required? probe⟩
    | _ => none

def StageKind.text : StageKind → String
  | .control => "control"
  | .relays => "relays"
  | .publishers => "publishers"
  | .subscribers => "subscribers"

instance : Form StageKind where
  write kind := .text kind.text
  read? := named?
    ([.control, .relays, .publishers, .subscribers].map fun k => (StageKind.text k, k))

instance : Form LaunchStage where
  write s := .object [("kind", write s.kind), ("processes", write s.processes)]
  read? d := do
    match ← record? ["kind", "processes"] d with
    | [kind, processes] => return ⟨← required? kind, ← required? processes⟩
    | _ => none

instance : Form LaunchPlan where
  write p := .object [("stages", write p.stages)]
  read? d := do
    match ← record? ["stages"] d with
    | [stages] => return ⟨← required? stages⟩
    | _ => none

def LaunchSettings.write (s : LaunchSettings) : Document :=
  .object [("relay_binary", Form.write s.relayBinary),
    ("publisher_binary", Form.write s.publisherBinary),
    ("subscriber_binary", Form.write s.subscriberBinary), ("api_binary", Form.write s.apiBinary),
    ("relay_port", Form.write s.relayPort), ("tls_cert", Form.write s.tlsCert),
    ("tls_key", Form.write s.tlsKey), ("tls_verify", Form.write s.tlsVerify),
    ("relay_log_level", Form.write s.relayLogLevel),
    ("client_log_level", Form.write s.clientLogLevel),
    ("ready_timeout", Form.write s.readyTimeout), ("poll_interval", Form.write s.pollInterval),
    ("check_timeout", Form.write s.checkTimeout), ("host_prefix", Form.write s.hostCommand)]

end RelayMesh
