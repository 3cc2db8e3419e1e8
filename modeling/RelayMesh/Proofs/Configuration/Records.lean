import RelayMesh.Configuration.Form
import RelayMesh.Proofs.Configuration.Settings

namespace RelayMesh

open Form (write)
open Setting (get? need? values)

/-! ### Address spaces -/

namespace AddressSpace

structure Given (fields : List (String × Draft)) (s : AddressSpace) : Prop where
  backboneRange : get? fields "backbone_range" standard.backboneRange = some s.backboneRange
  backboneLength : get? fields "backbone_prefix_len" standard.backboneLength = some s.backboneLength
  identityRange : get? fields "identity_range" standard.identityRange = some s.identityRange
  attachmentRange :
    get? fields "attachment_range" standard.attachmentRange = some s.attachmentRange
  attachmentLength :
    get? fields "attachment_prefix_len" standard.attachmentLength = some s.attachmentLength
  controlRange : get? fields "control_range" standard.controlRange = some s.controlRange
  controlLength : get? fields "control_prefix_len" standard.controlLength = some s.controlLength
  uplinkPeerOffset :
    get? fields "uplink_peer_offset" standard.uplinkPeerOffset = some s.uplinkPeerOffset

theorem ofDraft?_eq_some_iff {fields : List (String × Draft)} {s : AddressSpace} :
    Setting.ofDraft? (.object fields) = some s ↔ Given fields s := by
  constructor
  · intro read
    obtain ⟨_, backboneRange, read⟩ := Option.bind_eq_some_iff.mp read
    obtain ⟨_, backboneLength, read⟩ := Option.bind_eq_some_iff.mp read
    obtain ⟨_, identityRange, read⟩ := Option.bind_eq_some_iff.mp read
    obtain ⟨_, attachmentRange, read⟩ := Option.bind_eq_some_iff.mp read
    obtain ⟨_, attachmentLength, read⟩ := Option.bind_eq_some_iff.mp read
    obtain ⟨_, controlRange, read⟩ := Option.bind_eq_some_iff.mp read
    obtain ⟨_, controlLength, read⟩ := Option.bind_eq_some_iff.mp read
    obtain ⟨_, uplinkPeerOffset, read⟩ := Option.bind_eq_some_iff.mp read
    cases Option.some.inj read
    exact ⟨backboneRange, backboneLength, identityRange, attachmentRange, attachmentLength,
      controlRange, controlLength, uplinkPeerOffset⟩
  · rintro ⟨backboneRange, backboneLength, identityRange, attachmentRange, attachmentLength,
      controlRange, controlLength, uplinkPeerOffset⟩
    iterate 8 refine Option.bind_eq_some_iff.mpr ⟨_, ‹_›, ?_⟩
    rfl

end AddressSpace

theorem keeps_addressSpace (s : AddressSpace) : Keeps (write s) s where
  sound := by
    refine Document.sound_object (show ∀ name ∈ AddressSpace.fieldNames, _ by decide) ?_
    simp only [List.map_cons, List.map_nil, List.forall_mem_cons]
    exact ⟨(keeps_network _).sound, (keeps_uInt8 _).sound, (keeps_network _).sound,
      (keeps_network _).sound, (keeps_uInt8 _).sound, (keeps_network _).sound,
      (keeps_uInt8 _).sound, (keeps_uInt32 _).sound, List.forall_mem_nil _⟩
  read spelled := by
    obtain ⟨drafts, rfl, fields⟩ := Document.SpelledBy.of_object spelled
    have distinct : AddressSpace.fieldNames.Nodup := by decide
    exact AddressSpace.ofDraft?_eq_some_iff.mpr
      ⟨get?_spelled fields distinct rfl (keeps_network _) _,
        get?_spelled fields distinct rfl (keeps_uInt8 _) _,
        get?_spelled fields distinct rfl (keeps_network _) _,
        get?_spelled fields distinct rfl (keeps_network _) _,
        get?_spelled fields distinct rfl (keeps_uInt8 _) _,
        get?_spelled fields distinct rfl (keeps_network _) _,
        get?_spelled fields distinct rfl (keeps_uInt8 _) _,
        get?_spelled fields distinct rfl (keeps_uInt32 _) _⟩

/-! ### Launch settings -/

namespace LaunchSettings

def standard : LaunchSettings := {}

structure Given (fields : List (String × Draft)) (s : LaunchSettings) : Prop where
  relayBinary : get? fields "relay_binary" standard.relayBinary = some s.relayBinary
  publisherBinary : get? fields "publisher_binary" standard.publisherBinary = some s.publisherBinary
  subscriberBinary :
    get? fields "subscriber_binary" standard.subscriberBinary = some s.subscriberBinary
  apiBinary : get? fields "api_binary" standard.apiBinary = some s.apiBinary
  relayPort : get? fields "relay_port" standard.relayPort = some s.relayPort
  tlsCert : get? fields "tls_cert" standard.tlsCert = some s.tlsCert
  tlsKey : get? fields "tls_key" standard.tlsKey = some s.tlsKey
  tlsVerify : get? fields "tls_verify" standard.tlsVerify = some s.tlsVerify
  relayLogLevel : get? fields "relay_log_level" standard.relayLogLevel = some s.relayLogLevel
  clientLogLevel : get? fields "client_log_level" standard.clientLogLevel = some s.clientLogLevel
  readyTimeout : get? fields "ready_timeout" standard.readyTimeout = some s.readyTimeout
  pollInterval : get? fields "poll_interval" standard.pollInterval = some s.pollInterval
  checkTimeout : get? fields "check_timeout" standard.checkTimeout = some s.checkTimeout
  hostCommand : get? fields "host_prefix" standard.hostCommand = some s.hostCommand

theorem ofDraft?_eq_some_iff {fields : List (String × Draft)} {s : LaunchSettings} :
    Setting.ofDraft? (.object fields) = some s ↔ Given fields s := by
  constructor
  · intro read
    obtain ⟨_, relayBinary, read⟩ := Option.bind_eq_some_iff.mp read
    obtain ⟨_, publisherBinary, read⟩ := Option.bind_eq_some_iff.mp read
    obtain ⟨_, subscriberBinary, read⟩ := Option.bind_eq_some_iff.mp read
    obtain ⟨_, apiBinary, read⟩ := Option.bind_eq_some_iff.mp read
    obtain ⟨_, relayPort, read⟩ := Option.bind_eq_some_iff.mp read
    obtain ⟨_, tlsCert, read⟩ := Option.bind_eq_some_iff.mp read
    obtain ⟨_, tlsKey, read⟩ := Option.bind_eq_some_iff.mp read
    obtain ⟨_, tlsVerify, read⟩ := Option.bind_eq_some_iff.mp read
    obtain ⟨_, relayLogLevel, read⟩ := Option.bind_eq_some_iff.mp read
    obtain ⟨_, clientLogLevel, read⟩ := Option.bind_eq_some_iff.mp read
    obtain ⟨_, readyTimeout, read⟩ := Option.bind_eq_some_iff.mp read
    obtain ⟨_, pollInterval, read⟩ := Option.bind_eq_some_iff.mp read
    obtain ⟨_, checkTimeout, read⟩ := Option.bind_eq_some_iff.mp read
    obtain ⟨_, hostCommand, read⟩ := Option.bind_eq_some_iff.mp read
    cases Option.some.inj read
    exact ⟨relayBinary, publisherBinary, subscriberBinary, apiBinary, relayPort, tlsCert, tlsKey,
      tlsVerify, relayLogLevel, clientLogLevel, readyTimeout, pollInterval, checkTimeout,
      hostCommand⟩
  · rintro ⟨relayBinary, publisherBinary, subscriberBinary, apiBinary, relayPort, tlsCert, tlsKey,
      tlsVerify, relayLogLevel, clientLogLevel, readyTimeout, pollInterval, checkTimeout,
      hostCommand⟩
    iterate 14 refine Option.bind_eq_some_iff.mpr ⟨_, ‹_›, ?_⟩
    rfl

def fieldNames : List String :=
  ["relay_binary", "publisher_binary", "subscriber_binary", "api_binary", "relay_port", "tls_cert",
    "tls_key", "tls_verify", "relay_log_level", "client_log_level", "ready_timeout",
    "poll_interval", "check_timeout", "host_prefix"]

end LaunchSettings

theorem keeps_launchSettings (s : LaunchSettings) : Keeps s.write s where
  sound := by
    refine Document.sound_object (show ∀ name ∈ LaunchSettings.fieldNames, _ by decide) ?_
    simp only [List.map_cons, List.map_nil, List.forall_mem_cons]
    exact ⟨(keeps_string _).sound, (keeps_string _).sound, (keeps_string _).sound,
      (keeps_string _).sound, (keeps_uInt16 _).sound, (keeps_string _).sound,
      (keeps_string _).sound, (keeps_bool _).sound, (keeps_string _).sound,
      (keeps_string _).sound, (keeps_uInt64 _).sound, (keeps_uInt64 _).sound,
      (keeps_uInt64 _).sound, (keeps_strings _).sound, List.forall_mem_nil _⟩
  read spelled := by
    obtain ⟨drafts, rfl, fields⟩ := Document.SpelledBy.of_object spelled
    have distinct : LaunchSettings.fieldNames.Nodup := by decide
    exact LaunchSettings.ofDraft?_eq_some_iff.mpr
      ⟨get?_spelled fields distinct rfl (keeps_string _) _,
        get?_spelled fields distinct rfl (keeps_string _) _,
        get?_spelled fields distinct rfl (keeps_string _) _,
        get?_spelled fields distinct rfl (keeps_string _) _,
        get?_spelled fields distinct rfl (keeps_uInt16 _) _,
        get?_spelled fields distinct rfl (keeps_string _) _,
        get?_spelled fields distinct rfl (keeps_string _) _,
        get?_spelled fields distinct rfl (keeps_bool _) _,
        get?_spelled fields distinct rfl (keeps_string _) _,
        get?_spelled fields distinct rfl (keeps_string _) _,
        get?_spelled fields distinct rfl (keeps_uInt64 _) _,
        get?_spelled fields distinct rfl (keeps_uInt64 _) _,
        get?_spelled fields distinct rfl (keeps_uInt64 _) _,
        get?_spelled fields distinct rfl (keeps_strings _) _⟩

/-! ### Baselines -/

namespace Measurement

theorem read?_stageSum (stages probe : Document) :
    Form.read? (.object [("mode", .text "stage_sum"), ("stages", stages), ("probe", probe)])
      = (do return TraceBaseline.stageSum (← Form.read? stages) (← Form.read? probe)) := by
  simp [Form.read?, Document.tagged?, Document.record?_object, Document.lookup_cons,
    Document.required?]

theorem read?_probeDelta (first second : Document) :
    Form.read? (.object [("mode", .text "probe_delta"), ("from", first), ("to", second)])
      = (do return TraceBaseline.probeDelta (← Form.read? first) (← Form.read? second)) := by
  simp [Form.read?, Document.tagged?, Document.record?_object, Document.lookup_cons,
    Document.required?]

theorem read?_write (b : TraceBaseline) : Form.read? (write b) = some b := by
  cases b with
  | stageSum stages probe =>
    refine (read?_stageSum _ _).trans ?_
    simp [ReadsBack.read?_write]
  | probeDelta first second =>
    refine (read?_probeDelta _ _).trans ?_
    simp [ReadsBack.read?_write]

end Measurement

theorem rigid_strings (texts : List String) : (write texts).Rigid :=
  Document.rigid_list (List.forall_mem_map.mpr fun s _ => Document.rigid_text s)

theorem rigid_traceBaseline (b : Measurement.TraceBaseline) : (write b).Rigid := by
  cases b with
  | stageSum stages probe =>
    refine Document.rigid_object ?_
    simp only [List.map_cons, List.map_nil, List.forall_mem_cons]
    exact ⟨Document.rigid_text _, rigid_strings stages, Document.rigid_text probe,
      List.forall_mem_nil _⟩
  | probeDelta first second =>
    refine Document.rigid_object ?_
    simp only [List.map_cons, List.map_nil, List.forall_mem_cons]
    exact ⟨Document.rigid_text _, Document.rigid_text first, Document.rigid_text second,
      List.forall_mem_nil _⟩

theorem document?_strings (depth : Nat) (texts : List String) :
    (write texts).draft.document? (depth + 1) = some (write texts) :=
  Draft.document?_list (List.forall_mem_map.mpr fun s _ => Draft.document?_text s)

theorem document?_traceBaseline (depth : Nat) (b : Measurement.TraceBaseline) :
    (write b).draft.document? (depth + 2) = some (write b) := by
  cases b with
  | stageSum stages probe =>
    refine Draft.document?_object ?_
    simp only [List.forall_mem_cons]
    exact ⟨Draft.document?_text _, document?_strings depth stages, Draft.document?_text probe,
      List.forall_mem_nil _⟩
  | probeDelta first second =>
    refine Draft.document?_object ?_
    simp only [List.forall_mem_cons]
    exact ⟨Draft.document?_text _, Draft.document?_text first, Draft.document?_text second,
      List.forall_mem_nil _⟩

theorem keeps_traceBaseline (b : Measurement.TraceBaseline) : Keeps (write b) b where
  sound := by
    cases b with
    | stageSum stages probe =>
      refine Document.sound_object (show ∀ name ∈ ["mode", "stages", "probe"], _ by decide) ?_
      simp only [List.map_cons, List.map_nil, List.forall_mem_cons]
      exact ⟨Document.sound_text _, (keeps_strings stages).sound, Document.sound_text probe,
        List.forall_mem_nil _⟩
    | probeDelta first second =>
      refine Document.sound_object (show ∀ name ∈ ["mode", "from", "to"], _ by decide) ?_
      simp only [List.map_cons, List.map_nil, List.forall_mem_cons]
      exact ⟨Document.sound_text _, Document.sound_text first, Document.sound_text second,
        List.forall_mem_nil _⟩
  read spelled := by
    have settled : ((write b).draft.document? Measurement.TraceBaseline.maxDepth).bind Form.read?
        = some b := by
      rw [show Measurement.TraceBaseline.maxDepth = 124 + 2 from rfl, document?_traceBaseline,
        Option.bind_some, Measurement.read?_write]
    rw [rigid_traceBaseline b _ spelled]
    refine Option.bind_eq_some_iff.mpr ⟨b, settled, ?_⟩
    cases b <;>
      exact if_pos (by simp [Measurement.TraceBaseline.fieldNames, values, Document.draftFields])

/-! ### Rules for delays -/

namespace DelayOverride

structure Given (fields : List (String × Draft)) (o : DelayOverride) : Prop where
  a : need? fields "a" = some o.a
  b : need? fields "b" = some o.b
  delay : need? fields "delay" = some o.delay

theorem ofDraft?_eq_some_iff {fields : List (String × Draft)} {o : DelayOverride} :
    Setting.ofDraft? (.object fields) = some o ↔ Given fields o := by
  constructor
  · intro read
    obtain ⟨_, a, read⟩ := Option.bind_eq_some_iff.mp read
    obtain ⟨_, b, read⟩ := Option.bind_eq_some_iff.mp read
    obtain ⟨_, delay, read⟩ := Option.bind_eq_some_iff.mp read
    cases Option.some.inj read
    exact ⟨a, b, delay⟩
  · rintro ⟨a, b, delay⟩
    iterate 3 refine Option.bind_eq_some_iff.mpr ⟨_, ‹_›, ?_⟩
    rfl

end DelayOverride

theorem keeps_delayOverride {o : DelayOverride} (finite : o.delay.isFinite = true) :
    Keeps o.write o where
  sound := by
    refine Document.sound_object (show ∀ name ∈ ["a", "b", "delay"], _ by decide) ?_
    simp only [List.map_cons, List.map_nil, List.forall_mem_cons]
    exact ⟨(keeps_string _).sound, (keeps_string _).sound, (keeps_float finite).sound,
      List.forall_mem_nil _⟩
  read spelled := by
    obtain ⟨drafts, rfl, fields⟩ := Document.SpelledBy.of_object spelled
    have distinct : ["a", "b", "delay"].Nodup := by decide
    exact DelayOverride.ofDraft?_eq_some_iff.mpr
      ⟨need?_spelled fields distinct rfl (keeps_string _),
        need?_spelled fields distinct rfl (keeps_string _),
        need?_spelled fields distinct rfl (keeps_float finite)⟩

/-! ### Settings of the analysis -/

namespace MeasurementSettings

def standard : MeasurementSettings := {}

structure Given (fields : List (String × Draft)) (s : MeasurementSettings) : Prop where
  directory : get? fields "dir" standard.directory = some s.directory
  fileCount : get? fields "num_files" standard.fileCount = some s.fileCount
  excludedBeginnings :
    get? fields "exclude_prefixes" standard.excludedBeginnings = some s.excludedBeginnings
  trace : get? fields "trace" standard.trace = some s.trace

theorem ofDraft?_eq_some_iff {fields : List (String × Draft)} {s : MeasurementSettings} :
    Setting.ofDraft? (.object fields) = some s ↔ Given fields s := by
  constructor
  · intro read
    obtain ⟨_, directory, read⟩ := Option.bind_eq_some_iff.mp read
    obtain ⟨_, fileCount, read⟩ := Option.bind_eq_some_iff.mp read
    obtain ⟨_, excludedBeginnings, read⟩ := Option.bind_eq_some_iff.mp read
    obtain ⟨_, trace, read⟩ := Option.bind_eq_some_iff.mp read
    cases Option.some.inj read
    exact ⟨directory, fileCount, excludedBeginnings, trace⟩
  · rintro ⟨directory, fileCount, excludedBeginnings, trace⟩
    iterate 4 refine Option.bind_eq_some_iff.mpr ⟨_, ‹_›, ?_⟩
    rfl

end MeasurementSettings

theorem keeps_measurementSettings {s : MeasurementSettings} (count : s.fileCount < UInt64.size) :
    Keeps s.write s where
  sound := by
    refine Document.sound_object
      (show ∀ name ∈ ["dir", "num_files", "exclude_prefixes", "trace"], _ by decide) ?_
    simp only [List.map_cons, List.map_nil, List.forall_mem_cons]
    exact ⟨(keeps_string _).sound, (keeps_nat count).sound, (keeps_strings _).sound,
      (keeps_traceBaseline _).sound, List.forall_mem_nil _⟩
  read spelled := by
    obtain ⟨drafts, rfl, fields⟩ := Document.SpelledBy.of_object spelled
    have distinct : ["dir", "num_files", "exclude_prefixes", "trace"].Nodup := by decide
    exact MeasurementSettings.ofDraft?_eq_some_iff.mpr
      ⟨get?_spelled fields distinct rfl (keeps_string _) _,
        get?_spelled fields distinct rfl (keeps_nat count) _,
        get?_spelled fields distinct rfl (keeps_strings _) _,
        get?_spelled fields distinct rfl (keeps_traceBaseline _) _⟩

end RelayMesh
