import RelayMesh.Proofs.Addressing.Completeness
import RelayMesh.Proofs.Delay.Values
import RelayMesh.Proofs.NetworkPlan.Links
import RelayMesh.Proofs.NetworkPlan.NextHops
import RelayMesh.Proofs.Routing.Declared
import RelayMesh.Proofs.Topology.Nodes

namespace RelayMesh

section Filtered

variable {α β : Type} {kept : α → Bool} {good : β → Bool} {xs : List α}

theorem filterMap_filter_comm {f : α → Option β}
    (agree : ∀ x ∈ xs, ∀ y, f x = some y → good y = kept x) :
    (xs.filter kept).filterMap f = (xs.filterMap f).filter good := by
  rw [List.filterMap_filter, List.filter_filterMap]
  apply List.filterMap_congr
  intro x member
  cases made : f x with
  | none => simp
  | some y => simp [Option.filter, agree x member y made]

theorem flatMap_filter_comm {f : α → List β} (agree : ∀ x ∈ xs, ∀ y ∈ f x, good y = kept x) :
    (xs.filter kept).flatMap f = (xs.flatMap f).filter good := by
  induction xs with
  | nil => rfl
  | cons x xs ih =>
    obtain ⟨own, others⟩ := List.forall_mem_cons.mp agree
    rw [List.flatMap_cons, List.filter_append, ← ih others]
    cases keep : kept x with
    | true =>
      have all : (f x).filter good = f x :=
        List.filter_eq_self.mpr fun y member => (own y member).trans keep
      rw [List.filter_cons_of_pos keep, List.flatMap_cons, all]
    | false =>
      have none : (f x).filter good = [] := by
        rw [List.filter_eq_nil_iff]
        intro y member
        rw [own y member, keep]
        exact Bool.false_ne_true
      rw [List.filter_cons_of_neg (by simp [keep]), none, List.nil_append]

end Filtered

/-- Whether a link is on the backbone and its relays have no declared edge. -/
def Link.isUndeclared (l : Link) (t : Topology) : Bool :=
  t.isRelay l.a && t.isRelay l.b && !t.isDeclared l.a l.b

/-- Whether an interface is on the backbone and leads to a relay without a declared edge. -/
def Interface.isUndeclared (i : Interface) (t : Topology) : Bool :=
  match i.role with
  | .backbone peer => !t.isDeclared i.host peer
  | _ => false

def LinkShaping.isUndeclared (s : LinkShaping) (t : Topology) : Bool :=
  !t.isDeclared s.a s.b

namespace NetworkPlan

def routesTo (p : NetworkPlan) (host : NodeId) (destination : Address) : List Route :=
  p.routes.filter fun r => r.onHost == host && r.destination == destination

/-- The first plan is the second without the backbone of undeclared pairs. Relays with a declared
edge have one route to each other, which is the same in both. -/
structure Restricts (d f : NetworkPlan) : Prop where
  topology : d.topology = f.topology
  addresses : d.addresses = f.addresses
  launch : d.launch = f.launch
  links : d.links = f.links.filter fun l => !l.isUndeclared f.topology
  interfaces : d.interfaces = f.interfaces.filter fun i => !i.isUndeclared f.topology
  shaping : d.shaping = f.shaping.filter fun s => !s.isUndeclared f.topology
  routes : ∀ x y, f.topology.isDeclared x y = true → ∃ destination r,
    f.addresses.identity? y = some destination ∧
      d.routesTo x destination = [r] ∧ f.routesTo x destination = [r]

end NetworkPlan

section Loaded

variable {policy : DuplicateEdges} {doc : Document} {s : AddressSpace} {t : Topology}
  {p : AddressPlan} (loaded : Topology.load policy doc = .ok t)
include loaded

theorem Delays.shaping_declared (d : Delays NodeId) :
    d.shaping t t.declaredPairs =
      (d.shaping t t.allPairs).filter fun s => !s.isUndeclared t := by
  have all : t.allPairs.Pairwise Precedes := pairwise_pairsBelow t.numRelays
  rw [d.shaping_eq t t.pairwise_declaredPairs, d.shaping_eq t all,
    Topology.declaredPairs_eq_filter loaded]
  apply filterMap_filter_comm
  intro link _ s made
  obtain ⟨x, _, rfl⟩ := Option.map_eq_some_iff.mp made
  simp [LinkShaping.isUndeclared]

theorem AddressPlan.materialized_declared (p : AddressPlan) :
    p.materialized (some t.declaredPairs) =
      (p.materialized (some t.allPairs)).filter fun l => t.isDeclared l.a l.b := by
  rw [materialized, materialized, List.filter_filter, Topology.declaredPairs_eq_filter loaded]
  apply List.filter_congr
  intro l _
  rw [Bool.eq_iff_iff]
  simp [and_comm]

theorem AddressPlan.backboneInterfaces_declared (p : AddressPlan) :
    (p.materialized (some t.declaredPairs)).flatMap backboneInterfaces =
      ((p.materialized (some t.allPairs)).flatMap backboneInterfaces).filter
        fun i => !i.isUndeclared t := by
  rw [p.materialized_declared loaded]
  apply flatMap_filter_comm
  intro l _ i member
  simp only [backboneInterfaces, List.mem_cons, List.not_mem_nil, or_false] at member
  rcases member with rfl | rfl
  · simp [Interface.isUndeclared]
  · simp [Interface.isUndeclared, t.isDeclared_comm l.b l.a]

theorem AddressPlan.interfaces_declared (p : AddressPlan) :
    p.interfaces (some t.declaredPairs) =
      (p.interfaces (some t.allPairs)).filter fun i => !i.isUndeclared t := by
  rw [interfaces, interfaces, List.filter_append, List.filter_append, List.filter_append,
    p.backboneInterfaces_declared loaded]
  refine congrArg₂ _ (congrArg₂ _ (congrArg₂ _ (List.filter_eq_self.mpr ?identities).symm rfl)
    (List.filter_eq_self.mpr ?attachments).symm) (List.filter_eq_self.mpr ?control).symm
  case identities =>
    intro i member
    obtain ⟨_, _, rfl⟩ := List.mem_map.mp member
    rfl
  case attachments =>
    intro i member
    obtain ⟨a, _, listed⟩ := List.mem_flatMap.mp member
    simp only [attachmentInterfaces, List.mem_cons, List.not_mem_nil, or_false] at listed
    rcases listed with rfl | rfl
    · rfl
    · rfl
  case control =>
    intro i member
    rcases List.mem_append.mp member with own | relays
    · simp only [List.mem_cons, List.not_mem_nil, or_false] at own
      rcases own with rfl | rfl
      · rfl
      · rfl
    · obtain ⟨_, _, rfl⟩ := List.mem_map.mp relays
      rfl

theorem NetworkPlan.backboneLinks_declared (p : AddressPlan) :
    (t.declaredPairs.filterMap fun (a, b) => p.backboneLink? a b).map backboneLink =
      ((t.allPairs.filterMap fun (a, b) => p.backboneLink? a b).map backboneLink).filter
        fun l => !l.isUndeclared t := by
  rw [Topology.declaredPairs_eq_filter loaded, List.map_filterMap, List.map_filterMap]
  apply filterMap_filter_comm
  intro pair listed y made
  obtain ⟨l, found, rfl⟩ := Option.map_eq_some_iff.mp made
  obtain ⟨order, inside⟩ := mem_pairsBelow.mp listed
  obtain rfl : l.pair = pair := by
    rw [(AddressPlan.backboneLink?_spec found).2, orderedPair_of_le (Nat.le_of_lt order)]
  have relayB : t.isRelay l.b = true := decide_eq_true inside
  have relayA : t.isRelay l.a = true := decide_eq_true (Nat.lt_trans order inside)
  simp [Link.isUndeclared, backboneLink, relayA, relayB, BackboneLink.pair]

theorem NetworkPlan.linksOf_declared (built : s.build t = .ok p) : linksOf t p t.declaredPairs =
    (linksOf t p t.allPairs).filter fun l => !l.isUndeclared t := by
  have others : ∀ l ∈ p.attachments.map attachmentLink ++ controlLinks t p.control,
      (!l.isUndeclared t) = true := by
    intro l member
    simp [Link.isUndeclared, outer_of_build loaded built member]
  rw [linksOf, linksOf, List.append_assoc, List.append_assoc, List.filter_append,
    backboneLinks_declared loaded p, List.filter_eq_self.mpr others]

/-- Between relays with a declared edge, the route over this edge is the only one in both meshes. -/
theorem Routing.same_route (allocated : s.allocate t = .ok p) {full declared : List Route}
    (madeFull : synthesize t p .full = .ok full)
    (madeDeclared : synthesize t p .declared = .ok declared) {x y : NodeId}
    (edge : t.isDeclared x y = true) :
    ∃ destination r, p.identity? y = some destination ∧
      declared.filter (fun q => q.onHost == x && q.destination == destination) = [r] ∧
      full.filter (fun q => q.onHost == x && q.destination == destination) = [r] := by
  have near := adj_of_isDeclared loaded edge
  obtain ⟨insideX, insideY⟩ := MeshGraph.lt_of_adj (declaredGraph_proper loaded) near
  have journey : (x, y) ∈ relayJourneys t := mem_relayJourneys.mpr ⟨insideX, insideY, near.ne.symm⟩
  obtain ⟨fullRelays, _, fullPart, _⟩ := synthesize_spec madeFull
  obtain ⟨declaredRelays, _, declaredPart, _⟩ := synthesize_spec madeDeclared
  obtain ⟨r, fullMember, direct⟩ := Checked.exists_of_mapM_ok fullPart journey
  obtain ⟨q, declaredMember, shortest⟩ := Checked.exists_of_mapM_ok declaredPart journey
  have single := shortestPathRoute_of_isDeclared loaded p edge
  obtain rfl : r = q := Except.ok.inj (direct.symm.trans (single.symm.trans shortest))
  obtain ⟨host, destination, _⟩ := routeOver_spec direct
  refine ⟨r.destination, r, destination, ?_, ?_⟩
  · rw [← host]
    exact only_route loaded allocated madeDeclared declaredPart declaredMember
  · rw [← host]
    exact only_route loaded allocated madeFull fullPart fullMember

end Loaded

namespace NetworkPlan

variable {c : Configuration} {doc : Document} {d f : NetworkPlan}

theorem mesh_of_compile {plan : NetworkPlan} (compiled : compile c doc = .ok plan) :
    plan.mesh = c.mesh := by
  obtain ⟨_, _, _, _, _, _, _, mesh⟩ := compile_spec compiled
  exact mesh

section Compiled

variable (full : compile { c with mesh := .full } doc = .ok f)
  (declared : compile { c with mesh := .declared } doc = .ok d)
include full declared

theorem common_stages : d.topology = f.topology ∧ d.addresses = f.addresses ∧ d.launch = f.launch ∧
    d.links = linksOf f.topology f.addresses f.topology.declaredPairs ∧
    d.interfaces = f.addresses.interfaces (some f.topology.declaredPairs) ∧
    Routing.synthesize f.topology f.addresses .declared = .ok d.routes ∧
    ∃ delays : Delays NodeId, f.shaping = delays.shaping f.topology f.topology.allPairs ∧
      d.shaping = delays.shaping f.topology f.topology.declaredPairs := by
  obtain ⟨loadedF, allocatedF, _, launchF, ⟨delays, resolvedF, shapingF⟩, _⟩ := compile_spec full
  obtain ⟨loadedD, allocatedD, routes, launchD, ⟨_, resolvedD, shapingD⟩, links, interfaces, _⟩ :=
    compile_spec declared
  have topology : d.topology = f.topology := Except.ok.inj (loadedD.symm.trans loadedF)
  rw [topology] at allocatedD launchD resolvedD shapingD links interfaces routes
  have addresses : d.addresses = f.addresses := Except.ok.inj (allocatedD.symm.trans allocatedF)
  rw [addresses] at launchD links interfaces routes
  have launch : d.launch = f.launch := Except.ok.inj (launchD.symm.trans launchF)
  obtain rfl := Except.ok.inj (resolvedF.symm.trans resolvedD)
  exact ⟨topology, addresses, launch, links, interfaces, routes, delays, shapingF, shapingD⟩

theorem restricts_of_compile : d.Restricts f := by
  obtain ⟨topology, addresses, launch, links, interfaces, routes, delays, shapingF, shaping⟩ :=
    common_stages full declared
  obtain ⟨loaded, allocated, routesF, _, _, linksF, interfacesF, _⟩ := compile_spec full
  obtain ⟨_, built⟩ := AddressSpace.allocate_spec.mp allocated
  constructor
  · exact topology
  · exact addresses
  · exact launch
  · rw [links, linksF]
    exact linksOf_declared loaded built
  · rw [interfaces, interfacesF]
    exact f.addresses.interfaces_declared loaded
  · rw [shaping, shapingF]
    exact delays.shaping_declared loaded
  · intro x y edge
    exact Routing.same_route loaded allocated routesF routes edge

theorem eq_of_complete
    (complete : ∀ pair ∈ f.topology.allPairs, f.topology.isDeclared pair.1 pair.2 = true) :
    d = { f with mesh := .declared } := by
  obtain ⟨topology, addresses, launch, links, interfaces, routes, delays, shapingF, shaping⟩ :=
    common_stages full declared
  obtain ⟨loaded, _, routesF, _, _, linksF, interfacesF, _⟩ := compile_spec full
  have pairs : f.topology.declaredPairs = f.topology.allPairs := by
    rw [Topology.declaredPairs_eq_filter loaded, List.filter_eq_self.mpr complete]
  rw [Routing.synthesize_of_complete loaded f.addresses complete] at routes
  rw [pairs] at links interfaces shaping
  have mode : d.mesh = .declared := mesh_of_compile declared
  cases d
  simp only [NetworkPlan.mk.injEq]
  exact ⟨mode, topology, addresses, links.trans linksF.symm, interfaces.trans interfacesF.symm,
    Except.ok.inj (routes.symm.trans routesF), shaping.trans shapingF.symm, launch⟩

/-- Compiled for the declared edges only, a document gives the plan of the full mesh without the
backbone of the pairs that no edge connects. If there are no such pairs, only the mode differs. -/
theorem declared_refines_full : d.mesh = .declared ∧ f.mesh = .full ∧ d.Restricts f ∧
    ((∀ pair ∈ f.topology.allPairs, f.topology.isDeclared pair.1 pair.2 = true) →
      d = { f with mesh := .declared }) := by
  refine ⟨?_, ?_, restricts_of_compile full declared, eq_of_complete full declared⟩
  · exact mesh_of_compile declared
  · exact mesh_of_compile full

end Compiled

def fullSquare : NetworkPlan :=
  (compile { addressing := AddressPlan.narrowSpace, mesh := .full }
    Topology.squareDocument).toOption.getD default

theorem declaredSquare_refines_fullSquare :
    compile { addressing := AddressPlan.narrowSpace, mesh := .full } Topology.squareDocument =
        .ok fullSquare ∧
      compile { addressing := AddressPlan.narrowSpace, mesh := .declared } Topology.squareDocument =
        .ok declaredSquare ∧
      fullSquare.links.length = 12 ∧ declaredSquare.links.length = 10 ∧
      declaredSquare.mesh = .declared ∧ fullSquare.mesh = .full ∧
      declaredSquare.Restricts fullSquare ∧
      ((∀ pair ∈ fullSquare.topology.allPairs,
          fullSquare.topology.isDeclared pair.1 pair.2 = true) →
        declaredSquare = { fullSquare with mesh := .declared }) :=
  have full : compile { addressing := AddressPlan.narrowSpace, mesh := .full }
      Topology.squareDocument = .ok fullSquare := by cbv
  have declared : compile { addressing := AddressPlan.narrowSpace, mesh := .declared }
      Topology.squareDocument = .ok declaredSquare := by cbv
  have linksFull : fullSquare.links.length = 12 := by cbv
  have linksDeclared : declaredSquare.links.length = 10 := by cbv
  ⟨full, declared, linksFull, linksDeclared,
    declared_refines_full (c := { addressing := AddressPlan.narrowSpace }) full declared⟩

end NetworkPlan

end RelayMesh
