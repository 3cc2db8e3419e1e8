import RelayMesh.Proofs.Delay.Visits
import RelayMesh.Proofs.Keyed

namespace RelayMesh

open Checked (bind_ok pure_ok)

def DelayOverride.names (o : DelayOverride) (t : Topology) (x y : NodeId) : Bool :=
  t.nodeId? o.a == some x && t.nodeId? o.b == some y

def DelayOverride.connects (o : DelayOverride) (t : Topology) (x y : NodeId) : Bool :=
  o.names t x y || o.names t y x

namespace Configuration

/-- The last override that is written in the direction of the link, else the last one in the other
direction. -/
def ruling? (c : Configuration) (t : Topology) (x y : NodeId) : Option DelayOverride :=
  (c.delayOverrides.findRev? (·.names t x y)).or (c.delayOverrides.findRev? (·.names t y x))

def delayOf? (c : Configuration) (t : Topology) (x y : NodeId) : Option Binary64 :=
  ((c.ruling? t x y).map (·.delay)).or ((t.delayFor x y).or c.defaultDelay)

def shaping (c : Configuration) (t : Topology) (links : List (NodeId × NodeId)) :
    Except TopologyError (List LinkShaping) := do
  let delays ← c.delays.resolve t
  return delays.shaping t links

variable {c : Configuration} {t : Topology} {x y : NodeId}

theorem shaping_of_resolve {delays : Delays NodeId} (resolved : c.delays.resolve t = .ok delays)
    (links : List (NodeId × NodeId)) : c.shaping t links = .ok (delays.shaping t links) := by
  rw [shaping, resolved]
  rfl

theorem findRev?_congr {os : List DelayOverride} {p q : DelayOverride → Bool}
    (same : ∀ o ∈ os, p o = q o) : os.findRev? p = os.findRev? q := by
  rw [List.findRev?_eq_find?_reverse, List.findRev?_eq_find?_reverse, ← List.head?_filter,
    ← List.head?_filter, List.filter_congr fun o member => same o (List.mem_reverse.mp member)]

theorem ruling?_of_names {o : DelayOverride} (member : o ∈ c.delayOverrides)
    (names : o.names t x y = true) :
    c.ruling? t x y = c.delayOverrides.findRev? (·.names t x y) := by
  have found : (c.delayOverrides.findRev? (·.names t x y)).isSome = true := by
    rw [List.findRev?_eq_find?_reverse, List.find?_isSome]
    exact ⟨o, List.mem_reverse.mpr member, names⟩
  rw [ruling?, Option.or_of_isSome found]

theorem exists_ruling?_of_names {o : DelayOverride} (member : o ∈ c.delayOverrides)
    (names : o.names t x y = true) : ∃ p, c.ruling? t x y = some p ∧ p.names t x y = true := by
  rw [ruling?_of_names member names, List.findRev?_eq_find?_reverse]
  cases found : c.delayOverrides.reverse.find? (·.names t x y) with
  | none =>
    have unnamed := List.find?_eq_none.mp found o (List.mem_reverse.mpr member)
    contradiction
  | some p =>
    have names := List.find?_some found
    exact ⟨p, rfl, names⟩

theorem ruling?_of_not_names (unnamed : ∀ o ∈ c.delayOverrides, o.names t x y = false) :
    c.ruling? t x y = c.delayOverrides.findRev? (·.names t y x) := by
  have none : c.delayOverrides.findRev? (·.names t x y) = none := by
    rw [List.findRev?_eq_find?_reverse, List.find?_eq_none]
    intro o member
    rw [unnamed o (List.mem_reverse.mp member)]
    exact Bool.false_ne_true
  rw [ruling?, none, Option.none_or]

theorem ruling?_eq_none : c.ruling? t x y = none ↔
    ∀ o ∈ c.delayOverrides, o.connects t x y = false := by
  simp only [ruling?, List.findRev?_eq_find?_reverse, Option.or_eq_none_iff, List.find?_eq_none,
    List.mem_reverse, DelayOverride.connects, Bool.or_eq_false_iff, Bool.not_eq_true]
  grind

theorem ruling?_spec {o : DelayOverride} (ruling : c.ruling? t x y = some o) :
    o ∈ c.delayOverrides ∧ o.connects t x y = true := by
  simp only [ruling?, List.findRev?_eq_find?_reverse, Option.or_eq_some_iff] at ruling
  rcases ruling with found | ⟨_, found⟩
  · refine ⟨List.mem_reverse.mp (List.mem_of_find?_eq_some found), ?_⟩
    rw [DelayOverride.connects, List.find?_some found, Bool.true_or]
  · refine ⟨List.mem_reverse.mp (List.mem_of_find?_eq_some found), ?_⟩
    rw [DelayOverride.connects, List.find?_some found, Bool.or_true]

end Configuration

namespace Delays

section Loaded

variable {policy : DuplicateEdges} {doc : Document} {t : Topology}
  (loaded : Topology.load policy doc = .ok t)
include loaded

theorem nodeId?_eq_some_iff_name {name : String} (known : t.HasRelay name) {x : NodeId} :
    t.nodeId? name = some x ↔ t.name x = name := by
  obtain ⟨node, member, rfl⟩ := List.mem_map.mp known
  have listed := ((Topology.mem_relays_of_load loaded).mp member).1
  have found : t.nodeId? node.name = some node.id :=
    (Topology.nodeId?_eq_some_iff loaded).mpr ⟨node, listed, rfl, rfl⟩
  rw [found, Option.some.injEq]
  constructor
  · rintro rfl
    exact Topology.name_of_load loaded listed
  · intro same
    cases place : t.nodes[x]? with
    | none =>
      rw [Topology.name, place] at same
      exact absurd same.symm ((Topology.wellFormed_of_load loaded).named node listed)
    | some other =>
      have id := Topology.id_of_load loaded place
      rw [← id, Topology.name_of_load loaded (List.mem_of_getElem? place)] at same
      have equal := List.inj_on_of_nodup_map (Topology.nodup_names_of_load loaded)
        (List.mem_of_getElem? place) listed same
      rw [← equal, id]

theorem names_iff {o : DelayOverride} (known : t.HasRelay o.a ∧ t.HasRelay o.b) {x y : NodeId} :
    o.names t x y = true ↔ (o.a, o.b) = (t.name x, t.name y) := by
  simp only [DelayOverride.names, Bool.and_eq_true, beq_iff_eq,
    nodeId?_eq_some_iff_name loaded known.1, nodeId?_eq_some_iff_name loaded known.2,
    Prod.mk.injEq]
  grind

theorem key_of_resolveRule {rule : (String × String) × Binary64}
    {resolved : (NodeId × NodeId) × Binary64} (done : resolveRule t rule = .ok resolved)
    (x y : NodeId) :
    (resolved.1 == (x, y)) = (rule.1 == (t.name x, t.name y)) ∧ resolved.2 = rule.2 := by
  simp only [resolveRule, bind_ok, pure_ok] at done
  obtain ⟨a, foundA, b, foundB, rfl⟩ := done
  have ids {name : String} {a : NodeId} (found : resolveName t name = .ok a) (x : NodeId) :
      a = x ↔ name = t.name x := by
    have known := (resolveName_ok_iff loaded).mp ⟨a, found⟩
    have own := (nodeId?_eq_some_iff_name loaded known).mpr (name_of_resolveName loaded found)
    rw [eq_comm (a := name), ← nodeId?_eq_some_iff_name loaded known, own, Option.some.injEq]
  refine ⟨?_, rfl⟩
  rw [Bool.eq_iff_iff, beq_iff_eq, beq_iff_eq, Prod.mk.injEq, ids foundA, ids foundB,
    ← Prod.mk.injEq]

theorem get?_of_resolve {d : Delays String} {resolved : Delays NodeId}
    (ascending : SortedMap.Ascending d.rules.toList) (done : d.resolve t = .ok resolved)
    (x y : NodeId) : resolved.rules.get? (x, y) = d.rules.get? (t.name x, t.name y) := by
  simp only [resolve, resolveRules, bind_ok, pure_ok] at done
  obtain ⟨_, ⟨entries, each, rfl⟩, rfl⟩ := done
  have same : ∀ rule resolved, resolveRule t rule = .ok resolved →
      (resolved.1 == (x, y)) = (rule.1 == (t.name x, t.name y)) ∧ resolved.2 = rule.2 :=
    fun rule resolved done => key_of_resolveRule loaded done x y
  have distinct := SortedMap.nodup_keys_of_ascending ascending
  calc (SortedMap.ofList entries).get? (x, y)
    _ = (entries.findRev? (·.1 == (x, y))).map (·.2) := SortedMap.get?_ofList entries (x, y)
    _ = (d.rules.toList.findRev? (·.1 == (t.name x, t.name y))).map (·.2) :=
      Checked.findRev?_of_forall₂ (Checked.mapM_ok.mp each) same
    _ = (d.rules.toList.find? (·.1 == (t.name x, t.name y))).map (·.2) := by
      rw [List.findRev?_eq_find?_reverse, find?_perm Prod.fst (List.reverse_perm _).symm distinct]
    _ = d.rules.get? (t.name x, t.name y) := (SortedMap.get?_eq_find? d.rules _).symm

variable {c : Configuration} (declared : ∀ o ∈ c.delayOverrides, t.HasRelay o.a ∧ t.HasRelay o.b)
include declared

theorem get?_delays (x y : NodeId) : c.delays.rules.get? (t.name x, t.name y) =
    (c.delayOverrides.findRev? (·.names t x y)).map (·.delay) := by
  rw [c.delays_eq, SortedMap.get?_ofList]
  have related : List.Forall₂ (fun o rule => o ∈ c.delayOverrides ∧ rule = ((o.a, o.b), o.delay))
      c.delayOverrides (c.delayOverrides.map fun o => ((o.a, o.b), o.delay)) := by
    rw [List.forall₂_map_right_iff, List.forall₂_same]
    exact fun o member => ⟨member, rfl⟩
  apply Checked.findRev?_of_forall₂ related
  rintro o _ ⟨member, rfl⟩
  refine ⟨?_, rfl⟩
  rw [Bool.eq_iff_iff, names_iff loaded (declared o member)]
  exact beq_iff_eq

theorem delayOf?_of_resolve {resolved : Delays NodeId} (done : c.delays.resolve t = .ok resolved)
    (x y : NodeId) : resolved.delayOf? t (x, y) = c.delayOf? t x y := by
  have rules (x y : NodeId) : resolved.rules.get? (x, y) =
      (c.delayOverrides.findRev? (·.names t x y)).map (·.delay) := by
    rw [get?_of_resolve loaded c.ascending_rules done, get?_delays loaded declared]
  have fallback : resolved.fallback = c.defaultDelay := by
    simp only [resolve, bind_ok, pure_ok] at done
    obtain ⟨_, _, rfl⟩ := done
    rw [c.delays_eq]
  rw [delayOf?, Configuration.delayOf?, Configuration.ruling?, rules, rules, fallback, Option.map_or,
    Option.or_assoc]

end Loaded

end Delays

theorem Configuration.shaping_ok {policy : DuplicateEdges} {doc : Document} {t : Topology}
    (loaded : Topology.load policy doc = .ok t) {c : Configuration}
    (declared : ∀ o ∈ c.delayOverrides, t.HasRelay o.a ∧ t.HasRelay o.b)
    (links : List (NodeId × NodeId)) :
    ∃ table, c.shaping t links = .ok table ∧
      table.Pairwise (fun r s => Precedes (r.a, r.b) (s.a, s.b)) ∧
      ∀ s, s ∈ table ↔ (s.a, s.b) ∈ links ∧ c.delayOf? t s.a s.b = some s.delay := by
  obtain ⟨delays, resolved⟩ := (Delays.resolve_ok_iff loaded).mpr declared
  refine ⟨_, shaping_of_resolve resolved links, delays.shaping_ascending t links, fun s => ?_⟩
  rw [Delays.mem_shaping_iff, Delays.delayOf?_of_resolve loaded declared resolved]

end RelayMesh
