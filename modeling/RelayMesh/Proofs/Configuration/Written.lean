import RelayMesh.Proofs.Configuration.Records

namespace RelayMesh

open Form (write)
open Setting (get? need?)

namespace Configuration

def standard : Configuration := {}

structure Given (fields : List (String × Draft)) (c : Configuration) : Prop where
  addressing : get? fields "addressing" standard.addressing = some c.addressing
  mesh : get? fields "mesh" standard.mesh = some c.mesh
  duplicateEdges : get? fields "duplicate_edges" standard.duplicateEdges = some c.duplicateEdges
  defaultDelay : get? fields "default_delay" standard.defaultDelay = some c.defaultDelay
  delayOverrides : get? fields "delay_overrides" standard.delayOverrides = some c.delayOverrides
  launch : get? fields "launch" standard.launch = some c.launch
  measurement : get? fields "measurement" standard.measurement = some c.measurement

theorem ofDraft?_eq_some_iff {fields : List (String × Draft)} {c : Configuration} :
    ofDraft? (.object fields) = some c ↔ Given fields c := by
  constructor
  · intro read
    obtain ⟨_, addressing, read⟩ := Option.bind_eq_some_iff.mp read
    obtain ⟨_, mesh, read⟩ := Option.bind_eq_some_iff.mp read
    obtain ⟨_, duplicateEdges, read⟩ := Option.bind_eq_some_iff.mp read
    obtain ⟨_, defaultDelay, read⟩ := Option.bind_eq_some_iff.mp read
    obtain ⟨_, delayOverrides, read⟩ := Option.bind_eq_some_iff.mp read
    obtain ⟨_, launch, read⟩ := Option.bind_eq_some_iff.mp read
    obtain ⟨_, measurement, read⟩ := Option.bind_eq_some_iff.mp read
    cases Option.some.inj read
    exact ⟨addressing, mesh, duplicateEdges, defaultDelay, delayOverrides, launch, measurement⟩
  · rintro ⟨addressing, mesh, duplicateEdges, defaultDelay, delayOverrides, launch, measurement⟩
    iterate 7 refine Option.bind_eq_some_iff.mpr ⟨_, ‹_›, ?_⟩
    rfl

def fieldNames : List String :=
  ["addressing", "mesh", "duplicate_edges", "default_delay", "delay_overrides", "launch",
    "measurement"]

/-- The configurations that a file can hold: a number of files in 64 bits, and finite delays. -/
structure Bounded (c : Configuration) : Prop where
  fileCount : c.measurement.fileCount < UInt64.size
  defaultDelay : ∀ x ∈ c.defaultDelay, x.isFinite = true
  delayOverrides : ∀ o ∈ c.delayOverrides, o.delay.isFinite = true

def saved (c : Configuration) : String :=
  c.write.draft.fileText

theorem Bounded.keeps_delayOverrides {c : Configuration} (bounded : c.Bounded) :
    Keeps (.list (c.delayOverrides.map DelayOverride.write)) c.delayOverrides :=
  keeps_list fun o member => keeps_delayOverride (bounded.delayOverrides o member)

theorem Bounded.sound_write {c : Configuration} (bounded : c.Bounded) : c.write.Sound := by
  refine Document.sound_object (show ∀ name ∈ fieldNames, _ by decide) ?_
  simp only [List.map_cons, List.map_nil, List.forall_mem_cons]
  exact ⟨(keeps_addressSpace _).sound, (keeps_meshMode _).sound, (keeps_duplicateEdges _).sound,
    (keeps_delay bounded.defaultDelay).sound, bounded.keeps_delayOverrides.sound,
    (keeps_launchSettings _).sound, (keeps_measurementSettings bounded.fileCount).sound,
    List.forall_mem_nil _⟩

theorem Bounded.ofDraft?_spelled {c : Configuration} {d : Draft} (bounded : c.Bounded)
    (spelled : c.write.SpelledBy d) : ofDraft? d = some c := by
  obtain ⟨drafts, rfl, fields⟩ := Document.SpelledBy.of_object spelled
  have distinct : fieldNames.Nodup := by decide
  exact ofDraft?_eq_some_iff.mpr
    ⟨get?_spelled fields distinct rfl (keeps_addressSpace _) _,
      get?_spelled fields distinct rfl (keeps_meshMode _) _,
      get?_spelled fields distinct rfl (keeps_duplicateEdges _) _,
      get?_spelled fields distinct rfl (keeps_delay bounded.defaultDelay) _,
      get?_spelled fields distinct rfl bounded.keeps_delayOverrides _,
      get?_spelled fields distinct rfl (keeps_launchSettings _) _,
      get?_spelled fields distinct rfl (keeps_measurementSettings bounded.fileCount) _⟩

theorem ofText?_of_ofFile? {text : String} {d : Draft} (file : Draft.ofFile? text = some d) :
    ofText? text = ofDraft? d := by
  rw [ofText?, Draft.isBlankFile_of_ofFile? file, file]
  rfl

theorem Bounded.ofText?_spelled {c : Configuration} {text : String} {d : Draft}
    (bounded : c.Bounded) (file : Draft.ofFile? text = some d) (spelled : c.write.SpelledBy d) :
    ofText? text = some c := by
  rw [ofText?_of_ofFile? file, bounded.ofDraft?_spelled spelled]

theorem Bounded.ofText?_saved {c : Configuration} (bounded : c.Bounded) :
    ofText? c.saved = some c :=
  bounded.ofText?_spelled (Draft.ofFile?_fileText bounded.sound_write.proper)
    bounded.sound_write.spelled

end Configuration

/-! ### What settings can be -/

section Range

variable {d : Draft} {fields : List (String × Draft)}

theorem Setting.get?_cases {α : Type} [Setting α] {name : String} {standard a : α}
    (read : get? fields name standard = some a) : a = standard ∨ ∃ d, ofDraft? d = some a := by
  rw [get?] at read
  split at read
  · exact .inl (Option.some.inj read).symm
  · exact .inr ⟨_, read⟩
  · contradiction

theorem lt_of_ofDraft? {n : Nat} (read : Setting.ofDraft? d = some n) : n < UInt64.size := by
  cases d with
  | word s =>
    have below := (Option.filter_eq_some_iff.mp read).2
    exact of_decide_eq_true below
  | text | list | object => contradiction

theorem isFinite_of_ofDraft? {x : Binary64} (read : Setting.ofDraft? d = some x) :
    x.isFinite = true := by
  cases d with
  | word s => exact (Option.filter_eq_some_iff.mp read).2
  | text | list | object => contradiction

theorem delay_isFinite_of_ofDraft? {delay : Option Binary64}
    (read : Setting.ofDraft? d = some delay) : ∀ x ∈ delay, x.isFinite = true := by
  by_cases null : d = .word "null"
  · subst null
    cases read
    rintro _ ⟨⟩
  · rw [ofDraft?_option null] at read
    obtain ⟨x, number, rfl⟩ := Option.map_eq_some_iff.mp read
    rintro _ ⟨⟩
    exact isFinite_of_ofDraft? number

theorem override_isFinite_of_ofDraft? {o : DelayOverride} (read : Setting.ofDraft? d = some o) :
    o.delay.isFinite = true := by
  cases d with
  | object fields =>
    have given := (DelayOverride.ofDraft?_eq_some_iff.mp read).delay
    rw [need?] at given
    split at given
    · exact isFinite_of_ofDraft? given
    · contradiction
  | word | text | list => contradiction

theorem overrides_isFinite_of_ofDraft? {overrides : List DelayOverride}
    (read : Setting.ofDraft? d = some overrides) : ∀ o ∈ overrides, o.delay.isFinite = true := by
  cases d with
  | list items =>
    have each := Checked.mapM_eq_some_iff.mp
      (show items.mapM Setting.ofDraft? = some overrides from read)
    clear read
    induction each with
    | nil => exact List.forall_mem_nil _
    | cons first _ ih => exact List.forall_mem_cons.mpr ⟨override_isFinite_of_ofDraft? first, ih⟩
  | word | text | object => contradiction

theorem measurement_bounded_of_ofDraft? {s : MeasurementSettings}
    (read : Setting.ofDraft? d = some s) : s.fileCount < UInt64.size := by
  cases d with
  | object fields =>
    have given := (MeasurementSettings.ofDraft?_eq_some_iff.mp read).fileCount
    rcases Setting.get?_cases given with same | ⟨d, read⟩
    · rw [same]
      decide
    · exact lt_of_ofDraft? read
  | word | text | list => contradiction

namespace Configuration

theorem bounded_standard : standard.Bounded :=
  ⟨by decide, by rintro _ ⟨⟩, List.forall_mem_nil _⟩

theorem bounded_of_ofDraft? {c : Configuration} (read : ofDraft? d = some c) : c.Bounded := by
  cases d with
  | object fields =>
    have given := ofDraft?_eq_some_iff.mp read
    constructor
    · rcases Setting.get?_cases given.measurement with same | ⟨d, read⟩
      · exact same ▸ bounded_standard.fileCount
      · exact measurement_bounded_of_ofDraft? read
    · rcases Setting.get?_cases given.defaultDelay with same | ⟨d, read⟩
      · exact same ▸ bounded_standard.defaultDelay
      · exact delay_isFinite_of_ofDraft? read
    · rcases Setting.get?_cases given.delayOverrides with same | ⟨d, read⟩
      · exact same ▸ bounded_standard.delayOverrides
      · exact overrides_isFinite_of_ofDraft? read
  | word | text | list => contradiction

theorem bounded_of_ofText? {text : String} {c : Configuration} (read : ofText? text = some c) :
    c.Bounded := by
  rw [ofText?] at read
  split at read
  · cases read
    exact bounded_standard
  · obtain ⟨d, -, read⟩ := Option.bind_eq_some_iff.mp read
    exact bounded_of_ofDraft? read

end Configuration

end Range

end RelayMesh
