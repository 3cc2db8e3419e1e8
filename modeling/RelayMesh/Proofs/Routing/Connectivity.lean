import Mathlib
import RelayMesh.Proofs.Addressing.Completeness
import RelayMesh.Proofs.Addressing.Separation
import RelayMesh.Proofs.Routing.Components
import RelayMesh.Proofs.Routing.Routes

/-! When a mesh has all its routes. With its own addresses a full mesh always has them, and a
declared mesh has them exactly if its graph is connected. Otherwise the first relay is the one that
is reported, with the first of the relays that it cannot reach. -/

namespace RelayMesh

namespace Topology

def relayMesh (t : Topology) : SimpleGraph (Fin t.numRelays) :=
  t.declaredMesh.comap Fin.val

/-- The error names the number of components, the first relay, and the first of those that this one
cannot reach. -/
def ReportsSplit (t : Topology) (e : ConnectivityError) : Prop :=
  ∃ source target : Fin t.numRelays, source.val = 0 ∧
    IsLeast {x | ¬ t.relayMesh.Reachable source x} target ∧
    e = .disconnected (Nat.card t.relayMesh.ConnectedComponent) (t.name source) (t.name target)

end Topology

namespace Routing

open Checked (bind_ok bind_error pure_ok)
open MeshGraph (hops?)

section Tables

variable {policy : DuplicateEdges} {doc : Document} {t : Topology}
  (loaded : Topology.load policy doc = .ok t)
include loaded

theorem reachable_relayMesh {x y : Fin t.numRelays} :
    t.relayMesh.Reachable x y ↔ (declaredGraph t).graph.Reachable x y := by
  have own := MeshGraph.reachable_ownGraph (declaredGraph_proper loaded) (x := x) (y := y)
  rw [MeshGraph.ownGraph, graph_declaredGraph] at own
  rw [graph_declaredGraph]
  exact own

theorem hops?_declaredGraph_eq_none {x y : Fin t.numRelays} :
    hops? (declaredGraph t).distances x y = none ↔ ¬ t.relayMesh.Reachable x y := by
  have missing := MeshGraph.hops?_eq_none_iff (declaredGraph_proper loaded) (x := x) (y := y)
  rw [MeshGraph.ownGraph, graph_declaredGraph] at missing
  exact missing

theorem components_declaredGraph : (declaredGraph t).components (declaredGraph t).distances =
    Nat.card t.relayMesh.ConnectedComponent := by
  have count := MeshGraph.components_eq_card (declaredGraph_proper loaded)
  rw [MeshGraph.ownGraph, graph_declaredGraph] at count
  exact count

end Tables

theorem relayJourneys_ascending (t : Topology) : (relayJourneys t).Pairwise Precedes := by
  apply pairwise_precedes_groups
  · exact List.pairwise_lt_range
  · intro source _
    exact List.pairwise_lt_range.filter _

section Built

variable {policy : DuplicateEdges} {doc : Document} {s : AddressSpace} {t : Topology}
  {p : AddressPlan}

theorem routeOver_of_build (built : s.build t = .ok p) {source target next : NodeId}
    (sourceInside : source < t.numRelays) (targetInside : target < t.numRelays)
    (nextInside : next < t.numRelays) (different : source ≠ next) :
    ∃ r, routeOver p source target next = .ok r := by
  obtain ⟨destination, known⟩ := AddressPlan.identity?_of_build built targetInside
  obtain ⟨l, linked⟩ := AddressPlan.backboneLink?_of_build built sourceInside nextInside different
  obtain ⟨_, ends⟩ := AddressPlan.backboneLink?_spec linked
  rw [orderedPair_comm] at ends
  obtain ⟨via, own⟩ := BackboneLink.addressOf?_of_pair ends
  refine ⟨⟨source, destination, via⟩, ?_⟩
  simp only [routeOver, bind_ok, pure_ok]
  refine ⟨destination, identity_spec.mpr known, via, ?_, rfl⟩
  simp only [nextHopAddress, linked, Option.bind_some, own]

theorem fullMeshRoutes_of_build (built : s.build t = .ok p) :
    ∃ routes, fullMeshRoutes t p = .ok routes := by
  apply Checked.mapM_ok_of_forall
  rintro ⟨source, target⟩ journey
  obtain ⟨sourceInside, targetInside, different⟩ := mem_relayJourneys.mp journey
  exact routeOver_of_build built sourceInside targetInside targetInside different.symm

section Loaded

variable (loaded : Topology.load policy doc = .ok t) (built : s.build t = .ok p)
include loaded built

theorem clientRoutes_of_build : ∃ routes, clientRoutes p = .ok routes := by
  apply Checked.mapM_ok_of_forall
  intro a member
  have inside := (Topology.attachments_of_load loaded
    (AddressPlan.attachment_of_build built member)).1
  obtain ⟨destination, known⟩ := AddressPlan.identity?_of_build built inside
  refine ⟨⟨a.host, destination, a.relayAddress⟩, ?_⟩
  simp only [bind_ok, pure_ok]
  exact ⟨destination, identity_spec.mpr known, rfl⟩

theorem shortestPathRoute_of_reachable {source target : Fin t.numRelays}
    (different : source ≠ target) (joined : t.relayMesh.Reachable source target) :
    ∃ r, shortestPathRoute t p (declaredGraph t) (declaredGraph t).distances source target =
      .ok r := by
  have proper := declaredGraph_proper loaded
  rw [reachable_relayMesh loaded] at joined
  obtain ⟨w, length⟩ := joined.exists_walk_length_eq_edist
  cases steps : w.length with
  | zero => exact absurd (Fin.ext (SimpleGraph.Walk.eq_of_length_eq_zero steps)) different
  | succ d =>
    rw [steps] at length
    have known : hops? (declaredGraph t).distances source target = some (d + 1) :=
      (MeshGraph.hops?_eq_some_iff proper).mpr ⟨source.2, target.2, length.symm⟩
    obtain ⟨next, chosen⟩ := exists_nextHop? proper target.2 length.symm
    have near := (nextHop?_spec proper target.2 chosen).1.1
    obtain ⟨r, route⟩ := routeOver_of_build built source.2 target.2
      (MeshGraph.lt_of_adj proper near).2 near.ne
    refine ⟨r, ?_⟩
    simp only [shortestPathRoute, known, chosen, route]

omit built in
theorem shortestPathRoute_of_not_reachable {source target : Fin t.numRelays}
    (apart : ¬ t.relayMesh.Reachable source target) :
    shortestPathRoute t p (declaredGraph t) (declaredGraph t).distances source target =
      .error (.disconnected (Nat.card t.relayMesh.ConnectedComponent) (t.name source)
        (t.name target)) := by
  have missing := (hops?_declaredGraph_eq_none loaded).mpr apart
  simp only [shortestPathRoute, missing, components_declaredGraph loaded]

omit built in
theorem reachable_of_shortestPathRoute {source target : Fin t.numRelays} {r : Route}
    (route : shortestPathRoute t p (declaredGraph t) (declaredGraph t).distances source target =
      .ok r) : t.relayMesh.Reachable source target := by
  by_contra apart
  rw [shortestPathRoute_of_not_reachable loaded apart] at route
  cases route

theorem shortestPathRoutes_of_connected (connected : t.relayMesh.Connected) :
    ∃ routes, shortestPathRoutes t p = .ok routes := by
  apply Checked.mapM_ok_of_forall
  rintro ⟨source, target⟩ journey
  obtain ⟨sourceInside, targetInside, different⟩ := mem_relayJourneys.mp journey
  have joined := connected.preconnected ⟨source, sourceInside⟩ ⟨target, targetInside⟩
  exact shortestPathRoute_of_reachable loaded built (fun same => different (Fin.mk.inj same).symm)
    joined

theorem reportsSplit_of_error {e : ConnectivityError} (failed : shortestPathRoutes t p = .error e) :
    t.ReportsSplit e := by
  obtain ⟨before, ⟨source, target⟩, after, split, passed, here⟩ := Checked.mapM_error.mp failed
  have journey : (source, target) ∈ relayJourneys t := by
    rw [split]
    simp
  obtain ⟨sourceInside, targetInside, different⟩ := mem_relayJourneys.mp journey
  have apart : ¬ t.relayMesh.Reachable ⟨source, sourceInside⟩ ⟨target, targetInside⟩ := by
    intro joined
    obtain ⟨r, route⟩ := shortestPathRoute_of_reachable loaded built
      (fun same => different (Fin.mk.inj same).symm) joined
    have clash := here.symm.trans route
    cases clash
  have origin : 0 < t.numRelays := Nat.zero_lt_of_lt sourceInside
  have reached : ∀ y : Fin t.numRelays, Precedes (0, y.val) (source, target) →
      t.relayMesh.Reachable ⟨0, origin⟩ y := by
    intro y ahead
    by_cases own : y = ⟨0, origin⟩
    · rw [own]
    · have listed : (0, y.val) ∈ relayJourneys t :=
        mem_relayJourneys.mpr ⟨origin, y.2, fun same => own (Fin.ext same)⟩
      obtain ⟨r, route⟩ := passed _ (mem_before_of_precedes (relayJourneys_ascending t) split listed
        ahead)
      exact reachable_of_shortestPathRoute loaded route
  have first : source = 0 := by
    by_contra later
    have all : ∀ y : Fin t.numRelays, t.relayMesh.Reachable ⟨0, origin⟩ y := fun y =>
      reached y (.inl (Nat.pos_of_ne_zero later))
    exact apart ((all _).symm.trans (all _))
  subst first
  refine ⟨⟨0, origin⟩, ⟨target, targetInside⟩, rfl, ⟨apart, ?_⟩, ?_⟩
  · intro y missing
    by_contra before
    exact missing (reached y (.inr ⟨rfl, Nat.lt_of_not_le before⟩))
  · have report := shortestPathRoute_of_not_reachable loaded apart (p := p)
    exact Except.error.inj (here.symm.trans report)

omit built in
theorem connected_of_shortestPathRoutes {routes : List Route}
    (made : shortestPathRoutes t p = .ok routes) : t.relayMesh.Connected := by
  have joined : t.relayMesh.Preconnected := by
    intro x y
    by_cases same : x = y
    · rw [same]
    · have journey : (x.val, y.val) ∈ relayJourneys t :=
        mem_relayJourneys.mpr ⟨x.2, y.2, fun equal => same (Fin.ext equal.symm)⟩
      obtain ⟨r, _, route⟩ := Checked.exists_of_mapM_ok made journey
      exact reachable_of_shortestPathRoute loaded route
  have origin : Nonempty (Fin t.numRelays) := ⟨⟨0, Topology.numRelays_pos_of_load loaded⟩⟩
  exact ⟨joined⟩

theorem synthesize_ok_iff {mode : MeshMode} :
    (∃ routes, synthesize t p mode = .ok routes) ↔ mode = .full ∨ t.relayMesh.Connected := by
  obtain ⟨clients, clientPart⟩ := clientRoutes_of_build loaded built
  constructor
  · rintro ⟨routes, made⟩
    obtain ⟨relays, _, part, _⟩ := synthesize_spec made
    cases mode with
    | full => exact .inl rfl
    | declared => exact .inr (connected_of_shortestPathRoutes loaded part)
  · intro whole
    have part : ∃ relays, meshRoutes t p mode = .ok relays := by
      cases mode with
      | full => exact fullMeshRoutes_of_build built
      | declared =>
        apply shortestPathRoutes_of_connected loaded built
        exact whole.resolve_left (by simp)
    obtain ⟨relays, part⟩ := part
    exact ⟨relays ++ clients, bind_ok.mpr ⟨relays, part, bind_ok.mpr ⟨clients, clientPart, rfl⟩⟩⟩

theorem reportsSplit_of_synthesize {mode : MeshMode} {e : ConnectivityError}
    (failed : synthesize t p mode = .error e) : mode = .declared ∧ t.ReportsSplit e := by
  cases mode with
  | full =>
    have complete : ∃ routes, synthesize t p .full = .ok routes :=
      (synthesize_ok_iff loaded built).mpr (.inl rfl)
    exact absurd complete (Checked.exists_error_iff.mp ⟨e, failed⟩)
  | declared =>
    refine ⟨rfl, ?_⟩
    obtain ⟨clients, clientPart⟩ := clientRoutes_of_build loaded built
    rcases bind_error.mp failed with failed | ⟨relays, _, failed⟩
    · exact reportsSplit_of_error loaded built failed
    · rw [clientPart] at failed
      cases failed

end Loaded

/-- With addresses of its own a full mesh has all its routes. A declared mesh has them exactly if it
is connected, and else the split is what is reported. No link and no address is ever missing. -/
theorem synthesize_fails_only_split (loaded : Topology.load policy doc = .ok t)
    (allocated : s.allocate t = .ok p) :
    (∃ routes, synthesize t p .full = .ok routes) ∧
      ((∃ e, synthesize t p .declared = .error e) ↔ ¬ t.relayMesh.Connected) ∧
      (∀ e, synthesize t p .declared = .error e → t.ReportsSplit e) ∧
      ∀ mode, (∀ a b, synthesize t p mode ≠ .error (.missingLink a b)) ∧
        ∀ node, synthesize t p mode ≠ .error (.missingAddress node) := by
  obtain ⟨_, built⟩ := AddressSpace.allocate_spec.mp allocated
  have reports : ∀ mode e, synthesize t p mode = .error e → t.ReportsSplit e := by
    intro mode e failed
    exact (reportsSplit_of_synthesize loaded built failed).2
  refine ⟨(synthesize_ok_iff loaded built).mpr (.inl rfl), ?_, reports .declared, ?_⟩
  · rw [Checked.exists_error_iff, synthesize_ok_iff loaded built]
    simp
  · intro mode
    constructor
    · intro a b failed
      obtain ⟨_, _, _, _, report⟩ := reports mode _ failed
      cases report
    · intro node failed
      obtain ⟨_, _, _, _, report⟩ := reports mode _ failed
      cases report

end Built

def islandsDocument : Document :=
  let edge : Int × Int → Document := fun (x, y) => .object [("node1", .int x), ("node2", .int y)]
  .object [("nodes", .list [.text "a", .text "b", .text "c", .text "d"]),
    ("edges", .list ([(1, 3), (4, 2)].map edge))]

def islands : Topology where
  nodes := [⟨0, "a", .relay⟩, ⟨1, "b", .relay⟩, ⟨2, "c", .relay⟩, ⟨3, "d", .relay⟩,
    ⟨4, "api", .control⟩]
  numRelays := 4
  edges := [⟨0, 2, none⟩, ⟨3, 1, none⟩]
  attachments := []
  control := 4

def islandsPlan : AddressPlan :=
  (AddressPlan.narrowSpace.allocate islands).toOption.getD default

theorem islands_report_split :
    Topology.load .firstWins islandsDocument = .ok islands ∧
      AddressPlan.narrowSpace.allocate islands = .ok islandsPlan ∧
      synthesize islands islandsPlan .declared = .error (.disconnected 2 "a" "b") ∧
      islands.ReportsSplit (.disconnected 2 "a" "b") ∧ ¬ islands.relayMesh.Connected ∧
      ∃ routes, synthesize islands islandsPlan .full = .ok routes :=
  have loaded : Topology.load .firstWins islandsDocument = .ok islands := rfl
  have allocated : AddressPlan.narrowSpace.allocate islands = .ok islandsPlan := rfl
  have failed : synthesize islands islandsPlan .declared = .error (.disconnected 2 "a" "b") := by
    cbv
  have outcome := synthesize_fails_only_split loaded allocated
  ⟨loaded, allocated, failed, outcome.2.2.1 _ failed, outcome.2.1.mp ⟨_, failed⟩, outcome.1⟩

end Routing

end RelayMesh
