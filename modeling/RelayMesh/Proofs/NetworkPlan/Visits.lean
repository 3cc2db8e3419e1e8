import RelayMesh.Proofs.Delay.Visits
import RelayMesh.Proofs.NetworkPlan.Faults

/-! Compilation on maps without an order. The rules for delays, and the delays of links, may be
visited in any order: all orders give the same plan, but of several rules with names that no relay
has, the one that is visited first is reported. -/

namespace RelayMesh

open Checked (bind_ok bind_error pure_ok mapError_ok mapError_error)

/-- The order in which the entries of each of the two maps are visited. -/
structure Visits where
  rules : List ((String × String) × Binary64) → List ((String × String) × Binary64)
  delays : List ((NodeId × NodeId) × Binary64) → List ((NodeId × NodeId) × Binary64)
  rules_perm : ∀ entries, (rules entries).Perm entries
  delays_perm : ∀ entries, (delays entries).Perm entries

namespace Visits

def ascending : Visits where
  rules entries := entries
  delays entries := entries
  rules_perm := .refl
  delays_perm := .refl

def descending : Visits where
  rules := List.reverse
  delays := List.reverse
  rules_perm := List.reverse_perm
  delays_perm := List.reverse_perm

def beginning (rule : (String × String) × Binary64) : Visits where
  rules entries := if rule ∈ entries then rule :: entries.erase rule else entries
  delays entries := entries
  rules_perm entries := by
    split
    · rename_i member
      exact (List.perm_cons_erase member).symm
    · exact .refl entries
  delays_perm := .refl

theorem rules_beginning {rule : (String × String) × Binary64}
    {entries : List ((String × String) × Binary64)} (member : rule ∈ entries) :
    (beginning rule).rules entries = rule :: entries.erase rule :=
  if_pos member

end Visits

/-- The first name that is not that of a relay in one of the overrides. -/
def Configuration.Blames (c : Configuration) (t : Topology) (name : String) : Prop :=
  ∃ o ∈ c.delayOverrides, t.Blames (o.a, o.b) name

theorem Configuration.blames_iff {c : Configuration} {t : Topology} {name : String} :
    c.Blames t name ↔ ∃ rule ∈ c.delays.rules.toList, t.Blames rule.1 name := by
  constructor
  · rintro ⟨o, member, blamed⟩
    obtain ⟨rule, listed, ends⟩ :=
      List.mem_map.mp (Configuration.mem_ruleKeys.mpr ⟨o, member, rfl⟩)
    exact ⟨rule, listed, ends ▸ blamed⟩
  · rintro ⟨rule, listed, blamed⟩
    obtain ⟨o, member, ends⟩ := Configuration.mem_ruleKeys.mp (List.mem_map_of_mem listed)
    exact ⟨o, member, ends ▸ blamed⟩

namespace NetworkPlan

/-- The plan of a topology document where maps are visited in some order. -/
def compileVisiting (v : Visits) (c : Configuration) (doc : Document) :
    Except PlanError NetworkPlan := do
  let topology ← (Topology.load c.duplicateEdges doc).mapError .topology
  let addresses ← (c.addressing.allocate topology).mapError .allocation
  let routes ← (Routing.synthesize topology addresses c.mesh).mapError .connectivity
  let pairs := topology.links c.mesh
  let delays ← (c.delays.resolveVisiting v.rules topology).mapError .topology
  let launch ← (LaunchPlan.build topology addresses c.launch).mapError .launch
  return {
    mesh := c.mesh
    topology := topology
    addresses := addresses
    links := linksOf topology addresses pairs
    interfaces := addresses.interfaces (some pairs)
    routes := routes
    shaping := Delays.shapingOf (v.delays (delays.generated topology pairs).toList)
    launch := launch }

structure Routed (c : Configuration) (doc : Document) (t : Topology) (p : AddressPlan) : Prop where
  loaded : Topology.load c.duplicateEdges doc = .ok t
  accepted : c.addressing.check = .ok ()
  built : c.addressing.build t = .ok p
  whole : c.mesh = .full ∨ t.relayMesh.Connected

section Compiled

variable {c : Configuration} {doc : Document}

theorem compileVisiting_ascending (c : Configuration) (doc : Document) :
    compileVisiting .ascending c doc = compile c doc := by
  have shaping (d : Delays NodeId) (t : Topology) (links : List (NodeId × NodeId)) :
      Delays.shapingOf (Visits.ascending.delays (d.generated t links).toList) = d.shaping t links :=
    Delays.shapingOf_perm (.refl _)
  simp only [compileVisiting, compile, shaping]
  rfl

/-- Behind the earlier stages only the rules can fail, and the order in which the delays are
visited does not matter. -/
theorem compileVisiting_of_routed {t : Topology} {p : AddressPlan} (parts : Routed c doc t p) :
    ∃ plan : SortedMap (NodeId × NodeId) Binary64 → NetworkPlan, ∀ v, compileVisiting v c doc =
      ((Delays.resolveRules t (v.rules c.delays.rules.toList)).mapError .topology).map plan := by
  obtain ⟨routes, routed⟩ := (Routing.synthesize_ok_iff parts.loaded parts.built).mpr parts.whole
  obtain ⟨launch, launched⟩ := LaunchPlan.build_of_build parts.loaded parts.built c.launch
  have allocated := AddressSpace.allocate_spec.mpr ⟨parts.accepted, parts.built⟩
  refine ⟨fun rules => ⟨c.mesh, t, p, linksOf t p (t.links c.mesh),
    p.interfaces (some (t.links c.mesh)), routes,
    Delays.shaping ⟨c.delays.fallback, rules⟩ t (t.links c.mesh), launch⟩, fun v => ?_⟩
  simp only [compileVisiting, parts.loaded, allocated, routed, launched, Delays.resolveVisiting,
    Delays.shapingOf_perm (v.delays_perm _), Except.mapError, bind, Except.bind]
  cases Delays.resolveRules t (v.rules c.delays.rules.toList) <;> rfl

theorem compileVisiting_of_not_routed (early : ¬ ∃ t p, Routed c doc t p) :
    ∃ e, ∀ v, compileVisiting v c doc = .error e := by
  cases loaded : Topology.load c.duplicateEdges doc with
  | error e =>
    refine ⟨.topology e, fun v => ?_⟩
    simp only [compileVisiting, loaded, Except.mapError, bind, Except.bind]
  | ok t =>
    cases allocated : c.addressing.allocate t with
    | error e =>
      refine ⟨.allocation e, fun v => ?_⟩
      simp only [compileVisiting, loaded, allocated, Except.mapError, bind, Except.bind]
    | ok p =>
      obtain ⟨accepted, built⟩ := AddressSpace.allocate_spec.mp allocated
      cases routed : Routing.synthesize t p c.mesh with
      | error e =>
        refine ⟨.connectivity e, fun v => ?_⟩
        simp only [compileVisiting, loaded, allocated, routed, Except.mapError, bind, Except.bind]
      | ok routes =>
        have whole := (Routing.synthesize_ok_iff loaded built).mp ⟨routes, routed⟩
        exact absurd ⟨t, p, loaded, accepted, built, whole⟩ early

theorem plan_of_visits {v : Visits} {plan : NetworkPlan}
    (compiled : compileVisiting v c doc = .ok plan) (w : Visits) :
    compileVisiting w c doc = .ok plan := by
  by_cases early : ∃ t p, Routed c doc t p
  · obtain ⟨t, p, parts⟩ := early
    obtain ⟨make, each⟩ := compileVisiting_of_routed parts
    have distinct := SortedMap.nodup_keys_of_ascending c.ascending_rules
    have perm := (w.rules_perm c.delays.rules.toList).trans (v.rules_perm _).symm
    rw [each] at compiled ⊢
    cases done : Delays.resolveRules t (v.rules c.delays.rules.toList) with
    | error e =>
      rw [done] at compiled
      cases compiled
    | ok rules =>
      rw [done] at compiled
      have different := ((v.rules_perm c.delays.rules.toList).map Prod.fst).nodup_iff.mpr distinct
      rw [Delays.resolveRules_perm parts.loaded different perm done]
      exact compiled
  · obtain ⟨e, each⟩ := compileVisiting_of_not_routed early
    rw [each] at compiled
    cases compiled

theorem error_of_visits_iff {t : Topology} {p : AddressPlan} (parts : Routed c doc t p)
    {e : PlanError} : (∃ v, compileVisiting v c doc = .error e) ↔
      ∃ name, c.Blames t name ∧ e = .topology (.unknownNode "delays" name) := by
  obtain ⟨make, each⟩ := compileVisiting_of_routed parts
  simp only [each, Configuration.blames_iff]
  constructor
  · rintro ⟨v, failed⟩
    cases done : Delays.resolveRules t (v.rules c.delays.rules.toList) with
    | error d =>
      rw [done] at failed
      obtain ⟨rule, member, name, blamed, rfl⟩ := Delays.resolveRules_error parts.loaded done
      exact ⟨name, ⟨rule, (v.rules_perm _).mem_iff.mp member, blamed⟩,
        (Except.error.inj failed).symm⟩
    | ok rules =>
      rw [done] at failed
      cases failed
  · rintro ⟨name, ⟨rule, member, blamed⟩, rfl⟩
    refine ⟨.beginning rule, ?_⟩
    rw [Visits.rules_beginning member, Delays.resolveRules_cons_error parts.loaded blamed]
    rfl

theorem reported_iff {e : PlanError} : (∃ v, compileVisiting v c doc = .error e) ↔
    compile c doc = .error e ∨ ∃ t p name, Routed c doc t p ∧ c.Blames t name ∧
      e = .topology (.unknownNode "delays" name) := by
  constructor
  · rintro ⟨v, failed⟩
    by_cases early : ∃ t p, Routed c doc t p
    · obtain ⟨t, p, parts⟩ := early
      obtain ⟨name, blamed, report⟩ := (error_of_visits_iff parts).mp ⟨v, failed⟩
      exact .inr ⟨t, p, name, parts, blamed, report⟩
    · obtain ⟨d, each⟩ := compileVisiting_of_not_routed early
      rw [← compileVisiting_ascending, each, ← each v]
      exact .inl failed
  · rintro (failed | ⟨t, p, name, parts, blamed, report⟩)
    · exact ⟨.ascending, (compileVisiting_ascending c doc).trans failed⟩
    · exact (error_of_visits_iff parts).mpr ⟨name, blamed, report⟩

theorem compileVisiting_congr
    (single : ∀ t p x y, Routed c doc t p → c.Blames t x → c.Blames t y → x = y) (v w : Visits) :
    compileVisiting v c doc = compileVisiting w c doc := by
  cases first : compileVisiting v c doc with
  | ok plan => exact (plan_of_visits first w).symm
  | error e =>
    cases second : compileVisiting w c doc with
    | ok plan =>
      rw [plan_of_visits second v] at first
      contradiction
    | error f =>
      by_cases early : ∃ t p, Routed c doc t p
      · obtain ⟨t, p, parts⟩ := early
        obtain ⟨x, blamedX, rfl⟩ := (error_of_visits_iff parts).mp ⟨v, first⟩
        obtain ⟨y, blamedY, rfl⟩ := (error_of_visits_iff parts).mp ⟨w, second⟩
        rw [single t p x y parts blamedX blamedY]
      · obtain ⟨d, each⟩ := compileVisiting_of_not_routed early
        rw [← first, ← second, each v, each w]

theorem compileVisiting_agree_iff :
    (∀ v w, compileVisiting v c doc = compileVisiting w c doc) ↔
      ∀ t p x y, Routed c doc t p → c.Blames t x → c.Blames t y → x = y := by
  constructor
  · intro agree t p x y parts blamedX blamedY
    obtain ⟨v, failedX⟩ := (error_of_visits_iff parts).mpr ⟨x, blamedX, rfl⟩
    obtain ⟨w, failedY⟩ := (error_of_visits_iff parts).mpr ⟨y, blamedY, rfl⟩
    rw [agree v w, failedY] at failedX
    simpa using failedX.symm
  · exact compileVisiting_congr

end Compiled

/-- All orders give the same plan. Of the errors only the unknown name in the rules for delays
depends on the order, so all orders agree exactly if there is at most one such name to report. -/
theorem visits_agree_iff (c : Configuration) (doc : Document) :
    (∀ v w plan, compileVisiting v c doc = .ok plan → compileVisiting w c doc = .ok plan) ∧
      (∀ e, (∃ v, compileVisiting v c doc = .error e) ↔ compile c doc = .error e ∨
        ∃ t p name, Routed c doc t p ∧ c.Blames t name ∧
          e = .topology (.unknownNode "delays" name)) ∧
      ((∀ v w, compileVisiting v c doc = compileVisiting w c doc) ↔
        ∀ t p x y, Routed c doc t p → c.Blames t x → c.Blames t y → x = y) :=
  ⟨fun _ w _ compiled => plan_of_visits compiled w, fun _ => reported_iff,
    compileVisiting_agree_iff⟩

def strangers : Configuration :=
  { delayOverrides := [⟨"x", "a", ⟨0⟩⟩, ⟨"y", "a", ⟨0⟩⟩] }

/-- The order in which the rules are visited decides which of the two names is reported. -/
theorem visits_disagree_strangers :
    compileVisiting .ascending strangers Topology.squareDocument =
        .error (.topology (.unknownNode "delays" "x")) ∧
      compileVisiting .descending strangers Topology.squareDocument =
        .error (.topology (.unknownNode "delays" "y")) ∧
      ¬ ∀ v w, compileVisiting v strangers Topology.squareDocument =
        compileVisiting w strangers Topology.squareDocument := by
  have first : compileVisiting .ascending strangers Topology.squareDocument =
      .error (.topology (.unknownNode "delays" "x")) := by decide +kernel
  have second : compileVisiting .descending strangers Topology.squareDocument =
      .error (.topology (.unknownNode "delays" "y")) := by decide +kernel
  refine ⟨first, second, fun agree => ?_⟩
  have same := agree .ascending .descending
  rw [first, second] at same
  exact absurd same (by decide)

end NetworkPlan

end RelayMesh
