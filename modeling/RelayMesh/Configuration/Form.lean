import RelayMesh.Addressing.Form
import RelayMesh.Configuration
import RelayMesh.Configuration.Setting
import RelayMesh.Draft.Reader
import RelayMesh.Launch.Form
import RelayMesh.Measurement.Form

namespace RelayMesh

open Setting (get? need?)

instance : Setting AddressSpace where
  ofDraft?
    | .object fields => do
      let s := AddressSpace.standard
      return {
        backboneRange := ← get? fields "backbone_range" s.backboneRange
        backboneLength := ← get? fields "backbone_prefix_len" s.backboneLength
        identityRange := ← get? fields "identity_range" s.identityRange
        attachmentRange := ← get? fields "attachment_range" s.attachmentRange
        attachmentLength := ← get? fields "attachment_prefix_len" s.attachmentLength
        controlRange := ← get? fields "control_range" s.controlRange
        controlLength := ← get? fields "control_prefix_len" s.controlLength
        uplinkPeerOffset := ← get? fields "uplink_peer_offset" s.uplinkPeerOffset }
    | _ => none

instance : Setting DelayOverride where
  ofDraft?
    | .object fields => do
      return ⟨← need? fields "a", ← need? fields "b", ← need? fields "delay"⟩
    | _ => none

instance : Setting LaunchSettings where
  ofDraft?
    | .object fields => do
      let s : LaunchSettings := {}
      return {
        relayBinary := ← get? fields "relay_binary" s.relayBinary
        publisherBinary := ← get? fields "publisher_binary" s.publisherBinary
        subscriberBinary := ← get? fields "subscriber_binary" s.subscriberBinary
        apiBinary := ← get? fields "api_binary" s.apiBinary
        relayPort := ← get? fields "relay_port" s.relayPort
        tlsCert := ← get? fields "tls_cert" s.tlsCert
        tlsKey := ← get? fields "tls_key" s.tlsKey
        tlsVerify := ← get? fields "tls_verify" s.tlsVerify
        relayLogLevel := ← get? fields "relay_log_level" s.relayLogLevel
        clientLogLevel := ← get? fields "client_log_level" s.clientLogLevel
        readyTimeout := ← get? fields "ready_timeout" s.readyTimeout
        pollInterval := ← get? fields "poll_interval" s.pollInterval
        checkTimeout := ← get? fields "check_timeout" s.checkTimeout
        hostCommand := ← get? fields "host_prefix" s.hostCommand }
    | _ => none

namespace Measurement.TraceBaseline

def fieldNames : TraceBaseline → List String
  | .stageSum .. => ["mode", "stages", "probe"]
  | .probeDelta .. => ["mode", "from", "to"]

def maxDepth : Nat := Draft.maxDepth - 2

end Measurement.TraceBaseline

/-- How a baseline is read shows only in one of its fields, so every field must have a meaning; but
only those that matter must not be given twice. -/
instance : Setting Measurement.TraceBaseline where
  ofDraft? d := do
    let b : Measurement.TraceBaseline ←
      (d.document? Measurement.TraceBaseline.maxDepth).bind Form.read?
    match d with
    | .object fields =>
      if b.fieldNames.all fun name => (Setting.values fields name).length = 1 then some b else none
    | _ => some b

instance : Setting MeasurementSettings where
  ofDraft?
    | .object fields => do
      let s : MeasurementSettings := {}
      return {
        directory := ← get? fields "dir" s.directory
        fileCount := ← get? fields "num_files" s.fileCount
        excludedBeginnings := ← get? fields "exclude_prefixes" s.excludedBeginnings
        trace := ← get? fields "trace" s.trace }
    | _ => none

namespace Configuration

def ofDraft? : Draft → Option Configuration
  | .object fields => do
    let s : Configuration := {}
    return {
      addressing := ← get? fields "addressing" s.addressing
      mesh := ← get? fields "mesh" s.mesh
      duplicateEdges := ← get? fields "duplicate_edges" s.duplicateEdges
      defaultDelay := ← get? fields "default_delay" s.defaultDelay
      delayOverrides := ← get? fields "delay_overrides" s.delayOverrides
      launch := ← get? fields "launch" s.launch
      measurement := ← get? fields "measurement" s.measurement }
  | _ => none

/-- The configuration in the text of a file. An empty file leaves all settings alone. -/
def ofText? (text : String) : Option Configuration :=
  if Draft.isBlankFile text then some {} else (Draft.ofFile? text).bind ofDraft?

end Configuration

def DelayOverride.write (o : DelayOverride) : Document :=
  .object [("a", Form.write o.a), ("b", Form.write o.b), ("delay", Form.write o.delay)]

def MeasurementSettings.write (s : MeasurementSettings) : Document :=
  .object [("dir", Form.write s.directory), ("num_files", Form.write s.fileCount),
    ("exclude_prefixes", Form.write s.excludedBeginnings), ("trace", Form.write s.trace)]

def Configuration.write (c : Configuration) : Document :=
  .object [("addressing", Form.write c.addressing), ("mesh", Form.write c.mesh),
    ("duplicate_edges", Form.write c.duplicateEdges),
    ("default_delay", Form.write c.defaultDelay),
    ("delay_overrides", .list (c.delayOverrides.map DelayOverride.write)),
    ("launch", c.launch.write), ("measurement", c.measurement.write)]

end RelayMesh
