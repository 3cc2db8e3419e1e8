import RelayMesh.NetworkPlan
import RelayMesh.Proofs.Delay.Rules
import RelayMesh.Proofs.Routing.Connectivity

namespace RelayMesh

open Checked (bind_ok bind_error pure_ok mapError_ok mapError_error)

namespace LaunchPlan

variable {policy : DuplicateEdges} {doc : Document} {s : AddressSpace} {t : Topology}
  {p : AddressPlan}

theorem identity_of_build (built : s.build t = .ok p) {relay : NodeId}
    (inside : relay < t.numRelays) : ∃ a, identity t p relay = .ok a := by
  obtain ⟨a, known⟩ := AddressPlan.identity?_of_build built inside
  refine ⟨a, ?_⟩
  rw [identity, known]

theorem build_of_build (loaded : Topology.load policy doc = .ok t) (built : s.build t = .ok p)
    (settings : LaunchSettings) : ∃ plan, build t p settings = .ok plan := by
  have relays : ∃ specs, t.relayIds.mapM (relayProcess t p settings) = .ok specs := by
    apply Checked.mapM_ok_of_forall
    intro relay member
    obtain ⟨a, known⟩ := identity_of_build built (List.mem_range.mp member)
    exact ⟨_, bind_ok.mpr ⟨a, known, rfl⟩⟩
  have clients : ∀ role, ∃ specs, clientProcesses t p settings role = .ok specs := by
    intro role
    apply Checked.mapM_ok_of_forall
    intro a member
    have inside := (Topology.attachments_of_load loaded (List.mem_filter.mp member).1).1
    obtain ⟨address, known⟩ := identity_of_build built inside
    exact ⟨_, bind_ok.mpr ⟨address, known, rfl⟩⟩
  obtain ⟨relaySpecs, hr⟩ := relays
  obtain ⟨publishers, hp⟩ := clients .firstHop
  obtain ⟨subscribers, hs⟩ := clients .lastHop
  simp only [build, bind_ok, pure_ok]
  exact ⟨_, relaySpecs, hr, publishers, hp, subscribers, hs, rfl⟩

end LaunchPlan

namespace NetworkPlan

/-- What a plan is compiled from: a topology with addresses of its own, the routes of its mesh, and
delays between declared relays. -/
structure Compilable (c : Configuration) (doc : Document) (t : Topology) (p : AddressPlan) :
    Prop where
  loaded : Topology.load c.duplicateEdges doc = .ok t
  accepted : c.addressing.check = .ok ()
  built : c.addressing.build t = .ok p
  whole : c.mesh = .full ∨ t.relayMesh.Connected
  named : ∀ o ∈ c.delayOverrides, t.HasRelay o.a ∧ t.HasRelay o.b

/-- The fault of the first stage that fails, all stages before it having passed. -/
inductive FirstFault (c : Configuration) (doc : Document) : PlanError → Prop where
  | topology {e : TopologyError} (failed : Topology.load c.duplicateEdges doc = .error e) :
      FirstFault c doc (.topology e)
  | space {t : Topology} {e : AllocationError}
      (loaded : Topology.load c.duplicateEdges doc = .ok t)
      (failed : c.addressing.check = .error e) : FirstFault c doc (.allocation e)
  | addresses {t : Topology} {e : AllocationError}
      (loaded : Topology.load c.duplicateEdges doc = .ok t)
      (accepted : c.addressing.check = .ok ())
      (failed : c.addressing.build t = .error e) : FirstFault c doc (.allocation e)
  | mesh {t : Topology} {p : AddressPlan} {e : ConnectivityError}
      (loaded : Topology.load c.duplicateEdges doc = .ok t)
      (accepted : c.addressing.check = .ok ())
      (built : c.addressing.build t = .ok p)
      (failed : Routing.synthesize t p c.mesh = .error e)
      (declared : c.mesh = .declared) (split : t.ReportsSplit e) :
      FirstFault c doc (.connectivity e)
  | delays {t : Topology} {p : AddressPlan} {name : String} {o : DelayOverride}
      (loaded : Topology.load c.duplicateEdges doc = .ok t)
      (accepted : c.addressing.check = .ok ())
      (built : c.addressing.build t = .ok p)
      (whole : c.mesh = .full ∨ t.relayMesh.Connected)
      (failed : c.delays.resolve t = .error (.unknownNode "delays" name))
      (member : o ∈ c.delayOverrides) (own : name = o.a ∨ name = o.b)
      (unknown : ¬ t.HasRelay name) :
      FirstFault c doc (.topology (.unknownNode "delays" name))

variable {c : Configuration} {doc : Document}

theorem compile_of_compilable {t : Topology} {p : AddressPlan} (parts : Compilable c doc t p) :
    ∃ plan, compile c doc = .ok plan := by
  obtain ⟨loaded, accepted, built, whole, named⟩ := parts
  have allocated := AddressSpace.allocate_spec.mpr ⟨accepted, built⟩
  obtain ⟨routes, routed⟩ := (Routing.synthesize_ok_iff loaded built).mpr whole
  obtain ⟨delays, resolved⟩ := (Delays.resolve_ok_iff loaded).mpr named
  obtain ⟨launch, launched⟩ := LaunchPlan.build_of_build loaded built c.launch
  simp only [compile, bind_ok, pure_ok, mapError_ok]
  exact ⟨_, t, loaded, p, allocated, routes, routed, delays, resolved, launch, launched, rfl⟩

theorem compilable_of_compile {plan : NetworkPlan} (compiled : compile c doc = .ok plan) :
    Compilable c doc plan.topology plan.addresses := by
  simp only [compile, bind_ok, pure_ok, mapError_ok] at compiled
  obtain ⟨t, loaded, p, allocated, routes, routed, delays, resolved, _, _, rfl⟩ := compiled
  obtain ⟨accepted, built⟩ := AddressSpace.allocate_spec.mp allocated
  constructor
  · exact loaded
  · exact accepted
  · exact built
  · exact (Routing.synthesize_ok_iff loaded built).mp ⟨routes, routed⟩
  · exact (Delays.resolve_ok_iff loaded).mp ⟨delays, resolved⟩

theorem firstFault_of_compile {e : PlanError} (failed : compile c doc = .error e) :
    FirstFault c doc e := by
  rcases bind_error.mp failed with first | ⟨t, loaded, failed⟩
  · obtain ⟨d, cause, rfl⟩ := mapError_error.mp first
    exact .topology cause
  have loaded := mapError_ok.mp loaded
  rcases bind_error.mp failed with second | ⟨p, allocated, failed⟩
  · obtain ⟨d, cause, rfl⟩ := mapError_error.mp second
    rcases bind_error.mp cause with space | ⟨_, accepted, short⟩
    · exact .space loaded space
    · exact .addresses loaded accepted short
  obtain ⟨accepted, built⟩ := AddressSpace.allocate_spec.mp (mapError_ok.mp allocated)
  rcases bind_error.mp failed with third | ⟨routes, routed, failed⟩
  · obtain ⟨d, cause, rfl⟩ := mapError_error.mp third
    obtain ⟨declared, split⟩ := Routing.reportsSplit_of_synthesize loaded built cause
    exact .mesh loaded accepted built cause declared split
  have whole := (Routing.synthesize_ok_iff loaded built).mp ⟨routes, mapError_ok.mp routed⟩
  rcases bind_error.mp failed with fourth | ⟨delays, _, failed⟩
  · obtain ⟨d, cause, rfl⟩ := mapError_error.mp fourth
    obtain ⟨o, member, name, own, unknown, rfl⟩ := Delays.resolve_error loaded cause
    exact .delays loaded accepted built whole cause member own unknown
  obtain ⟨launch, launched⟩ := LaunchPlan.build_of_build loaded built c.launch
  rw [launched] at failed
  cases failed

theorem compile_of_firstFault {e : PlanError} (fault : FirstFault c doc e) :
    compile c doc = .error e := by
  cases fault with
  | topology failed => simp only [compile, failed, Except.mapError, bind, Except.bind]
  | space loaded failed =>
    simp only [compile, loaded, AddressSpace.allocate, failed, Except.mapError, bind, Except.bind]
  | addresses loaded accepted failed =>
    simp only [compile, loaded, AddressSpace.allocate, accepted, failed, Except.mapError, bind,
      Except.bind]
  | mesh loaded accepted built failed declared split =>
    simp only [compile, loaded, AddressSpace.allocate_spec.mpr ⟨accepted, built⟩, failed,
      Except.mapError, bind, Except.bind]
  | delays loaded accepted built whole failed member own unknown =>
    obtain ⟨routes, routed⟩ := (Routing.synthesize_ok_iff loaded built).mpr whole
    simp only [compile, loaded, AddressSpace.allocate_spec.mpr ⟨accepted, built⟩, routed, failed,
      Except.mapError, bind, Except.bind]

/-- Compilation succeeds exactly if a topology is read, addresses are handed out, the mesh can be
routed and the delays are between declared relays. Otherwise the fault of the first of these stages
is reported, and never one that only addresses of another topology would cause. -/
theorem compile_reports_first_fault (c : Configuration) (doc : Document) :
    ((∃ plan, compile c doc = .ok plan) ↔ ∃ t p, Compilable c doc t p) ∧
      (∀ e, compile c doc = .error e ↔ FirstFault c doc e) ∧
      (∀ e, compile c doc ≠ .error (.launch e)) ∧
      (∀ a b, compile c doc ≠ .error (.connectivity (.missingLink a b))) ∧
      ∀ node, compile c doc ≠ .error (.connectivity (.missingAddress node)) := by
  refine ⟨?_, fun e => ⟨firstFault_of_compile, compile_of_firstFault⟩, ?_, ?_, ?_⟩
  · constructor
    · rintro ⟨plan, compiled⟩
      exact ⟨plan.topology, plan.addresses, compilable_of_compile compiled⟩
    · rintro ⟨t, p, parts⟩
      exact compile_of_compilable parts
  · intro e failed
    cases firstFault_of_compile failed
  · intro a b failed
    cases firstFault_of_compile failed with
    | mesh _ _ _ _ _ split =>
      obtain ⟨_, _, _, _, report⟩ := split
      cases report
  · intro node failed
    cases firstFault_of_compile failed with
    | mesh _ _ _ _ _ split =>
      obtain ⟨_, _, _, _, report⟩ := split
      cases report

end NetworkPlan

end RelayMesh
