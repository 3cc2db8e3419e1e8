import RelayMesh.Launch.Plan
import RelayMesh.Proofs.Checked
import RelayMesh.Proofs.Keyed

namespace RelayMesh

/-- The value of an option among words, where every option in front of it has a value too. -/
def optionValue? (option : String) : List String → Option String
  | word :: value :: rest => if word = option then some value else optionValue? option rest
  | _ => none

def HopRole.stage : HopRole → StageKind
  | .firstHop => .publishers
  | .lastHop => .subscribers

namespace LaunchPlan

open Checked (bind_ok pure_ok)

def processesOf (plan : LaunchPlan) (kind : StageKind) : List ProcessSpec :=
  (plan.stages.filter (·.kind == kind)).flatMap (·.processes)

section Distinct

variable {plan : LaunchPlan} (distinct : (plan.stages.map (·.kind)).Nodup)
include distinct

theorem processesOf_eq {stage : LaunchStage} (member : stage ∈ plan.stages) :
    plan.processesOf stage.kind = stage.processes := by
  rw [processesOf, filter_eq_singleton (·.kind) distinct member]
  exact List.append_nil _

theorem processes_eq : plan.processes = (plan.stages.map (·.kind)).flatMap plan.processesOf := by
  rw [processes, List.flatMap_map]
  exact List.flatMap_congr fun stage member => (processesOf_eq distinct member).symm

end Distinct

theorem identity_spec {t : Topology} {p : AddressPlan} {relay : NodeId} {a : Address}
    (found : identity t p relay = .ok a) : p.identity? relay = some a := by
  unfold identity at found
  split at found
  · rename_i known
    cases found
    exact known
  · contradiction

section Processes

variable {t : Topology} {p : AddressPlan} {settings : LaunchSettings}

theorem relayProcess_spec {relay : NodeId} {spec : ProcessSpec}
    (made : relayProcess t p settings relay = .ok spec) : ∃ address,
      p.identity? relay = some address ∧ spec.node = relay ∧ spec.host = t.name relay ∧
      optionValue? "--bind" spec.args =
        some (⟨address, settings.relayPort⟩ : SocketAddress).toString ∧
      optionValue? "--api" spec.args = some (apiUrl p) ∧
      optionValue? "--node" spec.args = some (relayUrl settings address) ∧
      spec.probe = .relayListening ⟨address, settings.relayPort⟩ := by
  simp only [relayProcess, bind_ok, pure_ok] at made
  obtain ⟨address, found, rfl⟩ := made
  exact ⟨address, identity_spec found, rfl, rfl, rfl, rfl, rfl, rfl⟩

theorem clientProcess_spec {a : Attachment} {spec : ProcessSpec}
    (made : clientProcess t p settings a = .ok spec) : ∃ address,
      p.identity? a.relay = some address ∧ spec.node = a.host ∧ spec.host = t.name a.host ∧
      spec.args = "--name" :: a.track :: relayUrl settings address :: tlsFlags settings ∧
      spec.probe = clientProbe p a address := by
  simp only [clientProcess, bind_ok, pure_ok] at made
  obtain ⟨address, found, rfl⟩ := made
  exact ⟨address, identity_spec found, rfl, rfl, rfl, rfl⟩

theorem tlsFlags_sublist (settings : LaunchSettings) :
    (tlsFlags settings).Sublist ["--tls-disable-verify"] := by
  unfold tlsFlags
  split
  · exact List.nil_sublist _
  · exact List.Sublist.refl _

variable {plan : LaunchPlan} (built : build t p settings = .ok plan)
include built

theorem build_spec :
    plan.stages.map (·.kind) = [.control, .relays, .publishers, .subscribers] ∧
      plan.processes = [.control, .relays, .publishers, .subscribers].flatMap plan.processesOf ∧
      plan.processesOf .control = [apiProcess t p settings] ∧
      t.relayIds.mapM (relayProcess t p settings) = .ok (plan.processesOf .relays) ∧
      ∀ role, clientProcesses t p settings role = .ok (plan.processesOf role.stage) := by
  simp only [build, bind_ok, pure_ok] at built
  obtain ⟨relays, hr, publishers, hp, subscribers, hs, same⟩ := built
  have stages : plan.stages = [⟨.control, [apiProcess t p settings]⟩, ⟨.relays, relays⟩,
      ⟨.publishers, publishers⟩, ⟨.subscribers, subscribers⟩] := congrArg LaunchPlan.stages same.symm
  have kinds : plan.stages.map (·.kind) = [.control, .relays, .publishers, .subscribers] := by
    rw [stages]
    rfl
  have distinct : (plan.stages.map (·.kind)).Nodup := by
    rw [kinds]
    decide
  have own : ∀ stage ∈ plan.stages, plan.processesOf stage.kind = stage.processes :=
    fun stage member => processesOf_eq distinct member
  simp only [stages, List.forall_mem_cons] at own
  obtain ⟨control, relaysOf, publishersOf, subscribersOf, _⟩ := own
  refine ⟨kinds, ?_, control, ?_, fun role => ?_⟩
  · rw [processes_eq distinct, kinds]
  · rw [relaysOf, hr]
  · cases role with
    | firstHop => rw [HopRole.stage, publishersOf, hp]
    | lastHop => rw [HopRole.stage, subscribersOf, hs]

theorem host_of_build {kind : StageKind} {spec : ProcessSpec}
    (member : spec ∈ plan.processesOf kind) : spec.host = t.name spec.node := by
  obtain ⟨_, _, control, relays, clients⟩ := build_spec built
  have client : ∀ role : HopRole, spec ∈ plan.processesOf role.stage →
      spec.host = t.name spec.node := by
    intro role listed
    obtain ⟨a, _, made⟩ := Checked.mem_of_mapM_ok (clients role) listed
    obtain ⟨_, _, node, host, _⟩ := clientProcess_spec made
    rw [host, node]
  cases kind with
  | control =>
    rw [control, List.mem_singleton] at member
    rw [member]
    rfl
  | relays =>
    obtain ⟨relay, _, made⟩ := Checked.mem_of_mapM_ok relays member
    obtain ⟨_, _, node, host, _⟩ := relayProcess_spec made
    rw [host, node]
  | publishers => exact client .firstHop member
  | subscribers => exact client .lastHop member

end Processes

end LaunchPlan

end RelayMesh
