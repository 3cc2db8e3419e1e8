import RelayMesh.Proofs.Configuration.Written

namespace RelayMesh

open Setting (get? values)

/-! ### One object -/

/-- The fields of an object, and those that are left without one of a given name. -/
inductive Lacks (name : String) : List (String × Draft) → List (String × Draft) → Prop
  | intro (before : List (String × Draft)) (d : Draft) (after : List (String × Draft)) :
    Lacks name (before ++ (name, d) :: after) (before ++ after)

/-- The fields of an object, and those with another value in one place. -/
inductive Replaces (name : String) (d e : Draft) :
    List (String × Draft) → List (String × Draft) → Prop
  | intro (before after : List (String × Draft)) :
    Replaces name d e (before ++ (name, d) :: after) (before ++ (name, e) :: after)

theorem values_append (name : String) (before after : List (String × Draft)) :
    values (before ++ after) name = values before name ++ values after name := by
  rw [values, List.filter_append, List.map_append]
  rfl

section Fields

variable {α : Type} [Setting α] {name other : String} {fields changed : List (String × Draft)}
  {d e : Draft} {standard a : α}

theorem values_of_get? {before after : List (String × Draft)}
    (read : get? (before ++ (name, d) :: after) name standard = some a) :
    values before name = [] ∧ values after name = [] ∧ Setting.ofDraft? d = some a := by
  have split : values (before ++ (name, d) :: after) name =
      values before name ++ d :: values after name := by
    rw [values_append, values_cons, if_pos rfl]
  rw [get?, split] at read
  cases first : values before name with
  | nil =>
    cases last : values after name with
    | nil =>
      rw [first, last] at read
      exact ⟨rfl, rfl, read⟩
    | cons => simp [first, last] at read
  | cons => simp [first] at read

theorem Lacks.get? (lacks : Lacks name fields changed)
    (read : get? fields other standard = some a) :
    get? changed other standard = some (if name = other then standard else a) := by
  obtain ⟨before, d, after⟩ := lacks
  by_cases same : name = other
  · subst same
    obtain ⟨first, last, _⟩ := values_of_get? read
    rw [if_pos rfl, Setting.get?, values_append, first, last]
    rfl
  · rw [if_neg same, ← read, Setting.get?, Setting.get?, values_append, values_append, values_cons,
      if_neg same]

theorem Replaces.get?_self (replaces : Replaces name d e fields changed)
    (read : get? fields name standard = some a) :
    Setting.ofDraft? d = some a ∧ get? changed name standard = Setting.ofDraft? e := by
  obtain ⟨before, after⟩ := replaces
  obtain ⟨first, last, read⟩ := values_of_get? read
  refine ⟨read, ?_⟩
  rw [get?, values_append, values_cons, if_pos rfl, first, last]
  rfl

theorem Replaces.get?_other (replaces : Replaces name d e fields changed) (differ : name ≠ other)
    (read : get? fields other standard = some a) : get? changed other standard = some a := by
  obtain ⟨before, after⟩ := replaces
  rw [← read, get?, get?, values_append, values_append, values_cons, values_cons, if_neg differ,
    if_neg differ]

end Fields

/-! ### Records -/

/-- An address space whose setting of a given name is the standard one. -/
def AddressSpace.reset (name : String) (s : AddressSpace) : AddressSpace where
  backboneRange := if name = "backbone_range" then standard.backboneRange else s.backboneRange
  backboneLength :=
    if name = "backbone_prefix_len" then standard.backboneLength else s.backboneLength
  identityRange := if name = "identity_range" then standard.identityRange else s.identityRange
  attachmentRange :=
    if name = "attachment_range" then standard.attachmentRange else s.attachmentRange
  attachmentLength :=
    if name = "attachment_prefix_len" then standard.attachmentLength else s.attachmentLength
  controlRange := if name = "control_range" then standard.controlRange else s.controlRange
  controlLength := if name = "control_prefix_len" then standard.controlLength else s.controlLength
  uplinkPeerOffset :=
    if name = "uplink_peer_offset" then standard.uplinkPeerOffset else s.uplinkPeerOffset

def LaunchSettings.reset (name : String) (s : LaunchSettings) : LaunchSettings where
  relayBinary := if name = "relay_binary" then standard.relayBinary else s.relayBinary
  publisherBinary :=
    if name = "publisher_binary" then standard.publisherBinary else s.publisherBinary
  subscriberBinary :=
    if name = "subscriber_binary" then standard.subscriberBinary else s.subscriberBinary
  apiBinary := if name = "api_binary" then standard.apiBinary else s.apiBinary
  relayPort := if name = "relay_port" then standard.relayPort else s.relayPort
  tlsCert := if name = "tls_cert" then standard.tlsCert else s.tlsCert
  tlsKey := if name = "tls_key" then standard.tlsKey else s.tlsKey
  tlsVerify := if name = "tls_verify" then standard.tlsVerify else s.tlsVerify
  relayLogLevel := if name = "relay_log_level" then standard.relayLogLevel else s.relayLogLevel
  clientLogLevel := if name = "client_log_level" then standard.clientLogLevel else s.clientLogLevel
  readyTimeout := if name = "ready_timeout" then standard.readyTimeout else s.readyTimeout
  pollInterval := if name = "poll_interval" then standard.pollInterval else s.pollInterval
  checkTimeout := if name = "check_timeout" then standard.checkTimeout else s.checkTimeout
  hostCommand := if name = "host_prefix" then standard.hostCommand else s.hostCommand

/-- Settings of the analysis of which that of a given name is the standard one. -/
def MeasurementSettings.reset (name : String) (s : MeasurementSettings) : MeasurementSettings where
  directory := if name = "dir" then standard.directory else s.directory
  fileCount := if name = "num_files" then standard.fileCount else s.fileCount
  excludedBeginnings :=
    if name = "exclude_prefixes" then standard.excludedBeginnings else s.excludedBeginnings
  trace := if name = "trace" then standard.trace else s.trace

section Reset

variable {name : String} {fields fewer : List (String × Draft)}

theorem AddressSpace.Given.reset {s : AddressSpace} (given : Given fields s)
    (lacks : Lacks name fields fewer) : Given fewer (s.reset name) :=
  ⟨lacks.get? given.backboneRange, lacks.get? given.backboneLength,
    lacks.get? given.identityRange, lacks.get? given.attachmentRange,
    lacks.get? given.attachmentLength, lacks.get? given.controlRange,
    lacks.get? given.controlLength, lacks.get? given.uplinkPeerOffset⟩

theorem LaunchSettings.Given.reset {s : LaunchSettings} (given : Given fields s)
    (lacks : Lacks name fields fewer) : Given fewer (s.reset name) :=
  ⟨lacks.get? given.relayBinary, lacks.get? given.publisherBinary,
    lacks.get? given.subscriberBinary, lacks.get? given.apiBinary, lacks.get? given.relayPort,
    lacks.get? given.tlsCert, lacks.get? given.tlsKey, lacks.get? given.tlsVerify,
    lacks.get? given.relayLogLevel, lacks.get? given.clientLogLevel,
    lacks.get? given.readyTimeout, lacks.get? given.pollInterval, lacks.get? given.checkTimeout,
    lacks.get? given.hostCommand⟩

theorem MeasurementSettings.Given.reset {s : MeasurementSettings} (given : Given fields s)
    (lacks : Lacks name fields fewer) : Given fewer (s.reset name) :=
  ⟨lacks.get? given.directory, lacks.get? given.fileCount, lacks.get? given.excludedBeginnings,
    lacks.get? given.trace⟩

end Reset

/-! ### Whole configurations -/

namespace Configuration

/-- The records within a configuration that have standard values of their own. -/
inductive Group where
  | addressing
  | launch
  | measurement
deriving DecidableEq

def Group.name : Group → String
  | .addressing => "addressing"
  | .launch => "launch"
  | .measurement => "measurement"

inductive Place where
  | top (name : String)
  | within (group : Group) (name : String)
deriving DecidableEq

/-- A configuration whose setting in a given place is the standard one. -/
def reset : Place → Configuration → Configuration
  | .top name, c =>
    { addressing := if name = "addressing" then standard.addressing else c.addressing
      mesh := if name = "mesh" then standard.mesh else c.mesh
      duplicateEdges :=
        if name = "duplicate_edges" then standard.duplicateEdges else c.duplicateEdges
      defaultDelay := if name = "default_delay" then standard.defaultDelay else c.defaultDelay
      delayOverrides :=
        if name = "delay_overrides" then standard.delayOverrides else c.delayOverrides
      launch := if name = "launch" then standard.launch else c.launch
      measurement := if name = "measurement" then standard.measurement else c.measurement }
  | .within .addressing name, c => { c with addressing := c.addressing.reset name }
  | .within .launch name, c => { c with launch := c.launch.reset name }
  | .within .measurement name, c => { c with measurement := c.measurement.reset name }

/-- The draft of a configuration, and the one that is left without the setting in a place. -/
inductive Without : Place → Draft → Draft → Prop
  | top {name : String} {fields fewer : List (String × Draft)} (lacks : Lacks name fields fewer) :
    Without (.top name) (.object fields) (.object fewer)
  | within {group : Group} {name : String} {fields fewer inner left : List (String × Draft)}
      (lacks : Lacks name inner left)
      (replaces : Replaces group.name (.object inner) (.object left) fields fewer) :
    Without (.within group name) (.object fields) (.object fewer)

theorem Given.top {name : String} {fields fewer : List (String × Draft)} {c : Configuration}
    (given : Given fields c) (lacks : Lacks name fields fewer) :
    Given fewer (c.reset (.top name)) :=
  ⟨lacks.get? given.addressing, lacks.get? given.mesh, lacks.get? given.duplicateEdges,
    lacks.get? given.defaultDelay, lacks.get? given.delayOverrides, lacks.get? given.launch,
    lacks.get? given.measurement⟩

theorem Given.within {group : Group} {name : String} {fields fewer : List (String × Draft)}
    {inner left : List (String × Draft)} {c : Configuration} (given : Given fields c)
    (lacks : Lacks name inner left)
    (replaces : Replaces group.name (.object inner) (.object left) fields fewer) :
    Given fewer (c.reset (.within group name)) := by
  obtain ⟨addressing, mesh, duplicateEdges, defaultDelay, delayOverrides, launch, measurement⟩ :=
    given
  cases group with
  | addressing =>
    obtain ⟨read, again⟩ := replaces.get?_self addressing
    have reset := (AddressSpace.ofDraft?_eq_some_iff.mp read).reset lacks
    exact ⟨again.trans (AddressSpace.ofDraft?_eq_some_iff.mpr reset),
      replaces.get?_other (by decide) mesh, replaces.get?_other (by decide) duplicateEdges,
      replaces.get?_other (by decide) defaultDelay, replaces.get?_other (by decide) delayOverrides,
      replaces.get?_other (by decide) launch, replaces.get?_other (by decide) measurement⟩
  | launch =>
    obtain ⟨read, again⟩ := replaces.get?_self launch
    have reset := (LaunchSettings.ofDraft?_eq_some_iff.mp read).reset lacks
    exact ⟨replaces.get?_other (by decide) addressing, replaces.get?_other (by decide) mesh,
      replaces.get?_other (by decide) duplicateEdges, replaces.get?_other (by decide) defaultDelay,
      replaces.get?_other (by decide) delayOverrides,
      again.trans (LaunchSettings.ofDraft?_eq_some_iff.mpr reset),
      replaces.get?_other (by decide) measurement⟩
  | measurement =>
    obtain ⟨read, again⟩ := replaces.get?_self measurement
    have reset := (MeasurementSettings.ofDraft?_eq_some_iff.mp read).reset lacks
    exact ⟨replaces.get?_other (by decide) addressing, replaces.get?_other (by decide) mesh,
      replaces.get?_other (by decide) duplicateEdges, replaces.get?_other (by decide) defaultDelay,
      replaces.get?_other (by decide) delayOverrides, replaces.get?_other (by decide) launch,
      again.trans (MeasurementSettings.ofDraft?_eq_some_iff.mpr reset)⟩

theorem ofDraft?_without {place : Place} {d e : Draft} {c : Configuration}
    (without : Without place d e) (read : ofDraft? d = some c) :
    ofDraft? e = some (c.reset place) := by
  cases without with
  | top lacks => exact ofDraft?_eq_some_iff.mpr ((ofDraft?_eq_some_iff.mp read).top lacks)
  | within lacks replaces =>
    exact ofDraft?_eq_some_iff.mpr ((ofDraft?_eq_some_iff.mp read).within lacks replaces)

/-! ### Accepted files -/

def resave? (text : String) : Option String :=
  (ofText? text).map saved

/-- What holds of a file and of the configuration in it: the configuration can be saved and read
back, and taking a setting out of the file does nothing but reset it. -/
structure Faithful (text : String) (c : Configuration) : Prop where
  saved : ofText? c.saved = some c
  resaved : (resave? text).bind resave? = resave? text
  /-- Any other text will do that spells what is written of the configuration. -/
  spelled : ∀ {other : String} {d : Draft}, Draft.ofFile? other = some d → c.write.SpelledBy d →
    ofText? other = some c
  /-- Its compact text will do unless it has a character that a file does not keep. -/
  compact : Document.AllKept (Document.compact c.write) → ofText? c.write.compactText = some c
  /-- Not even whether the file is accepted depends on the setting that is taken out. -/
  reset : ∀ {place : Place} {d e : Draft}, Draft.ofFile? text = some d → Without place d e →
    ofDraft? e = some (c.reset place) ∧
      ∀ {fewer : String}, Draft.ofFile? fewer = some e → ofText? fewer = some (c.reset place)

def sampleText : String :=
  "\x7b\"mesh\":\"declared\",\"color\":[1,2],\"default_delay\":2.50,"
    ++ "\"launch\":\x7b\"relay_port\":4444,\"tls_key\":\"1e3\",\"tls_cert\":1e3\x7d\x7d"

def sample : Configuration :=
  { mesh := .declared
    defaultDelay := Decimal.read? "2.5"
    launch := { relayPort := 4444, tlsKey := "1e3", tlsCert := "1e3" } }

end Configuration

end RelayMesh
