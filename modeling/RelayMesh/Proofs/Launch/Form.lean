import RelayMesh.Launch.Form
import RelayMesh.Proofs.Network.Form

namespace RelayMesh

open Document hiding read?
open Form (write read?)
open ReadsBack (read?_write)

/-! ### Probes -/

@[simp] theorem writable_probe (probe : Probe) : (write probe).Writable := by
  cases probe with
  | apiReachable url | relayListening socket | started => simp [write, writable_object]
  | trackAnnounced api relayId track =>
    change Writable (.object [("kind", .text "track_announced"), ("api", write api),
      ("relay_id", write relayId), ("track", write track)])
    simp [writable_object]

theorem read?_apiReachable (url : Document) :
    read? (.object [("kind", .text "api_reachable"), ("url", url)])
      = (do return Probe.apiReachable (← read? url)) := by
  simp [read?, tagged?, record?_object, lookup_cons, required?]

theorem read?_relayListening (socket : Document) :
    read? (.object [("kind", .text "relay_listening"), ("addr", socket)])
      = (do return Probe.relayListening (← read? socket)) := by
  simp [read?, tagged?, record?_object, lookup_cons, required?]

theorem read?_trackAnnounced (api relayId track : Document) :
    read? (.object [("kind", .text "track_announced"), ("api", api), ("relay_id", relayId),
        ("track", track)])
      = (do return Probe.trackAnnounced (← read? api) (← read? relayId) (← read? track)) := by
  simp [read?, tagged?, record?_object, lookup_cons, required?]

instance : ReadsBack Probe where
  read?_write probe _ := by
    cases probe with
    | apiReachable url =>
      refine (read?_apiReachable _).trans ?_
      simp [read?_write]
    | relayListening socket =>
      refine (read?_relayListening _).trans ?_
      simp [read?_write]
    | trackAnnounced api relayId track =>
      refine (read?_trackAnnounced _ _ _).trans ?_
      simp [read?_write]
    | started => simp [write, read?, tagged?, record?_object, lookup_cons]

/-! ### Processes -/

@[simp] theorem writable_processSpec {s : ProcessSpec} :
    (write s).Writable ↔ s.node < UInt64.size := by
  change Writable (.object [("node", write s.node), ("host", write s.host),
    ("binary", write s.binary), ("args", write s.args), ("env", write s.env),
    ("probe", write s.probe)]) ↔ _
  simp [writable_object]

theorem read?_processSpec (node host binary args env probe : Document) :
    read? (.object [("node", node), ("host", host), ("binary", binary), ("args", args),
        ("env", env), ("probe", probe)])
      = (do
        return ProcessSpec.mk (← read? node) (← read? host) (← read? binary) (← read? args)
          (← read? env) (← read? probe)) := by
  change (record? _ (.object _)).bind _ = _
  simp [record?_object, lookup_cons, required?]

instance : ReadsBack ProcessSpec where
  read?_write s writable := by
    rw [writable_processSpec] at writable
    refine (read?_processSpec _ _ _ _ _ _).trans ?_
    simp [read?_write, writable]

/-! ### Stages -/

@[simp] theorem writable_stageKind (kind : StageKind) : (write kind).Writable := .text _

instance : ReadsBack StageKind := ⟨fun kind _ => by cases kind <;> rfl⟩

@[simp] theorem writable_launchStage {s : LaunchStage} :
    (write s).Writable ↔ (write s.processes).Writable := by
  change Writable (.object [("kind", write s.kind), ("processes", write s.processes)]) ↔ _
  simp [writable_object]

theorem read?_launchStage (kind processes : Document) :
    read? (.object [("kind", kind), ("processes", processes)])
      = (do return LaunchStage.mk (← read? kind) (← read? processes)) := by
  change (record? _ (.object _)).bind _ = _
  simp [record?_object, lookup_cons, required?]

instance : ReadsBack LaunchStage where
  read?_write s writable := by
    rw [writable_launchStage] at writable
    refine (read?_launchStage _ _).trans ?_
    simp [read?_write _ writable, read?_write]

@[simp] theorem writable_launchPlan {p : LaunchPlan} :
    (write p).Writable ↔ (write p.stages).Writable := by
  change Writable (.object [("stages", write p.stages)]) ↔ _
  simp [writable_object]

theorem read?_launchPlan (stages : Document) :
    read? (.object [("stages", stages)]) = (do return LaunchPlan.mk (← read? stages)) := by
  change (record? _ (.object _)).bind _ = _
  simp [record?_object, lookup_cons, required?]

instance : ReadsBack LaunchPlan where
  read?_write p writable := by
    rw [writable_launchPlan] at writable
    refine (read?_launchPlan _).trans ?_
    simp [read?_write _ writable]

end RelayMesh
