import RelayMesh.Proofs.NetworkPlan.Visits
import RelayMesh.Proofs.Topology.FirstEdges

/-! All that a plan has from the list of edges is which pairs are declared, and the delay of the
first edge of each. So the order of the records, the order of their ends, and all records of a pair
but the first one do not matter. -/

namespace RelayMesh.NetworkPlan

def withEdges (edges : List Edge) (p : NetworkPlan) : NetworkPlan :=
  { p with topology := { p.topology with edges := edges } }

section Edges

variable {t : Topology} {edges : List Edge}
  (pairs : Topology.declaredPairs { t with edges := edges } = t.declaredPairs)
include pairs

theorem links_congr (mode : MeshMode) :
    Topology.links { t with edges := edges } mode = t.links mode := by
  cases mode with
  | full => rfl
  | declared => exact pairs

theorem synthesize_congr (p : AddressPlan) (mode : MeshMode) :
    Routing.synthesize { t with edges := edges } p mode = Routing.synthesize t p mode := by
  have graph : Routing.declaredGraph { t with edges := edges } = Routing.declaredGraph t := by
    rw [Routing.declaredGraph, Routing.declaredGraph, pairs]
  cases mode with
  | full => rfl
  | declared =>
    rw [Routing.synthesize, Routing.meshRoutes, Routing.shortestPathRoutes, graph]
    rfl

omit pairs in
theorem generated_congr
    (delays : ∀ x y, Topology.delayFor { t with edges := edges } x y = t.delayFor x y)
    (d : Delays NodeId) (links : List (NodeId × NodeId)) :
    d.generated { t with edges := edges } links = d.generated t links := by
  simp only [Delays.generated, Delays.delayOf?, delays]

/-- Topologies that differ in their edges, but neither in the declared pairs nor in their delays,
give the same plan or the same fault when maps are visited in the same order. -/
theorem compileVisiting_withEdges
    (delays : ∀ x y, Topology.delayFor { t with edges := edges } x y = t.delayFor x y)
    {c : Configuration} {doc other : Document} (loaded : Topology.load c.duplicateEdges doc = .ok t)
    (again : Topology.load c.duplicateEdges other = .ok { t with edges := edges }) (v : Visits) :
    compileVisiting v c other = (compileVisiting v c doc).map (withEdges edges) := by
  have addresses : c.addressing.allocate { t with edges := edges } = c.addressing.allocate t := rfl
  have rules : c.delays.resolveVisiting v.rules { t with edges := edges } =
      c.delays.resolveVisiting v.rules t := rfl
  have launch : ∀ p, LaunchPlan.build { t with edges := edges } p c.launch =
      LaunchPlan.build t p c.launch := fun _ => rfl
  have start : ∀ t : Topology, (Except.ok t).mapError PlanError.topology = pure t := fun _ => rfl
  change _ = withEdges edges <$> compileVisiting v c doc
  simp only [compileVisiting, loaded, again, start, pure_bind, addresses, synthesize_congr pairs,
    links_congr pairs, rules, generated_congr delays, launch, map_bind, map_pure]
  rfl

end Edges

/-- What two documents have in common that give the same topology up to its edges. With the same
visiting order they give the same plan or error. With different ones they give the same plans, and
the same errors can be reported; all runs agree exactly if at most one unknown name in the rules for
delays can be reported. -/
structure Alike (c : Configuration) (doc other : Document) (edges : List Edge) : Prop where
  sameOrder : ∀ v, compileVisiting v c other = (compileVisiting v c doc).map (withEdges edges)
  plans : ∀ v w p, compileVisiting v c doc = .ok p →
    compileVisiting w c other = .ok (withEdges edges p)
  plansBack : ∀ v w q, compileVisiting v c other = .ok q →
    ∃ p, compileVisiting w c doc = .ok p ∧ withEdges edges p = q
  errors : ∀ e, (∃ v, compileVisiting v c other = .error e) ↔
    ∃ v, compileVisiting v c doc = .error e
  anyOrder : (∀ v w, compileVisiting w c other = (compileVisiting v c doc).map (withEdges edges)) ↔
    ∀ t p x y, Routed c doc t p → c.Blames t x → c.Blames t y → x = y

theorem alike_of_sameOrder {c : Configuration} {doc other : Document} {edges : List Edge}
    (same : ∀ v, compileVisiting v c other = (compileVisiting v c doc).map (withEdges edges)) :
    Alike c doc other edges := by
  refine ⟨same, fun v w p compiled => ?_, fun v w q compiled => ?_, fun e => ?_, ?_⟩
  · rw [same, plan_of_visits compiled w]
    rfl
  · rw [same] at compiled
    obtain ⟨p, own, rfl⟩ := Checked.map_ok.mp compiled
    exact ⟨p, plan_of_visits own w, rfl⟩
  · simp only [same, Checked.map_error]
  · rw [← compileVisiting_agree_iff]
    constructor
    · intro whole v w
      cases first : compileVisiting v c doc with
      | ok p => exact (plan_of_visits first w).symm
      | error e =>
        have other : compileVisiting w c other = .error e := by
          rw [whole v w, first]
          rfl
        rw [same, Checked.map_error] at other
        exact other.symm
    · intro agree v w
      rw [same, agree w v]

theorem compileVisiting_normalDocument {c : Configuration} {doc : Document} {t : Topology}
    (policy : c.duplicateEdges = .firstWins) (loaded : Topology.load .firstWins doc = .ok t)
    (v : Visits) :
    compileVisiting v c (Topology.normalDocument (t.relays.map (·.name)) doc) =
      (compileVisiting v c doc).map (withEdges (firstEdges t.edges)) := by
  apply compileVisiting_withEdges t.declaredPairs_firstEdges t.delayFor_firstEdges
  · rw [policy]
    exact loaded
  · rw [policy]
    exact Topology.load_normalDocument loaded .firstWins

/-- With one record for each pair, a document is also accepted where no pair may have several, and
it compiles like the document that it comes from. -/
theorem compile_normalDocument {c : Configuration} {doc : Document} {t : Topology}
    (policy : c.duplicateEdges = .firstWins) (loaded : Topology.load .firstWins doc = .ok t) :
    ∃ edges, t.FirstOfPairs edges ∧
      Topology.load .reject (Topology.normalDocument (t.relays.map (·.name)) doc) =
        .ok { t with edges := edges } ∧
      Alike c doc (Topology.normalDocument (t.relays.map (·.name)) doc) edges :=
  ⟨firstEdges t.edges, t.firstOfPairs_firstEdges, Topology.load_normalDocument loaded .reject,
    alike_of_sameOrder (compileVisiting_normalDocument policy loaded)⟩

def tangledDocument : Document :=
  let edge : Document → Document → List (String × Document) → Document := fun x y more =>
    .object (("node1", x) :: ("node2", y) :: more)
  .object [("edges", .list [edge (.text "d") (.int 3) [],
      edge (.text "b") (.text "1") [("delay", .text "2.5 ms")], edge (.int 4) (.text "b") [],
      edge (.int 1) (.int 2) [("delay", .int 7)], edge (.int 2) (.int 1) [],
      edge (.int 1) (.int 3) []]),
    ("nodes", .list [.text "a", .text "b", .text "c", .text "d"]),
    ("first_hop_relay", .list [.object [("track", .text "v"), ("relay", .int 1)]]),
    ("last_hop_relay", .list [.object [("track", .text "v"), ("relay", .int 4)]])]

def tangled : Topology :=
  { Topology.square with edges := [⟨3, 2, none⟩, ⟨1, 0, some ⟨0x4004000000000000⟩⟩, ⟨3, 1, none⟩,
      ⟨0, 1, some ⟨0x401c000000000000⟩⟩, ⟨1, 0, none⟩, ⟨0, 2, none⟩] }

theorem load_tangledDocument : Topology.load .firstWins tangledDocument = .ok tangled := by
  decide +kernel

def tangledNormal : Document :=
  Topology.normalDocument (tangled.relays.map (·.name)) tangledDocument

theorem tangled_normalDocument :
    Topology.load .firstWins tangledDocument = .ok tangled ∧
      firstEdges tangled.edges = [⟨0, 1, some ⟨0x4004000000000000⟩⟩, ⟨0, 2, none⟩, ⟨1, 3, none⟩,
        ⟨2, 3, none⟩] ∧
      ∃ edges, tangled.FirstOfPairs edges ∧
        Topology.load .reject tangledNormal = .ok { tangled with edges := edges } ∧
        Alike { mesh := .declared } tangledDocument tangledNormal edges :=
  ⟨load_tangledDocument, by cbv, compile_normalDocument rfl load_tangledDocument⟩

/-- Of two unknown names, a document and its normal document may report different ones. -/
theorem normalDocument_disagrees :
    Topology.load .firstWins tangledDocument = .ok tangled ∧
      strangers.duplicateEdges = .firstWins ∧
      compileVisiting .ascending strangers tangledDocument =
        .error (.topology (.unknownNode "delays" "x")) ∧
      compileVisiting .descending strangers tangledNormal =
        .error (.topology (.unknownNode "delays" "y")) ∧
      ¬ ∀ v w e, compileVisiting v strangers tangledDocument = .error e →
        compileVisiting w strangers tangledNormal = .error e := by
  have first : compileVisiting .ascending strangers tangledDocument =
      .error (.topology (.unknownNode "delays" "x")) := by decide +kernel
  have other : compileVisiting .descending strangers tangledDocument =
      .error (.topology (.unknownNode "delays" "y")) := by decide +kernel
  have second : compileVisiting .descending strangers tangledNormal =
      .error (.topology (.unknownNode "delays" "y")) := by
    rw [tangledNormal, compileVisiting_normalDocument rfl load_tangledDocument, other]
    rfl
  refine ⟨load_tangledDocument, rfl, first, second, fun agree => ?_⟩
  have same := agree .ascending .descending _ first
  rw [second] at same
  exact absurd same (by decide)

end RelayMesh.NetworkPlan
