import RelayMesh.Configuration
import RelayMesh.Proofs.Checked
import RelayMesh.Proofs.SortedMap
import RelayMesh.Proofs.Topology.Pairs

namespace RelayMesh

theorem compare_of_precedes {p q : NodeId × NodeId} (before : Precedes p q) :
    compare q p = .gt := by
  change (compare q.1 p.1).then (compare q.2 p.2) = .gt
  rcases before with lower | ⟨same, lower⟩
  · rw [Nat.compare_eq_gt.mpr lower]
    rfl
  · rw [same, Nat.compare_eq_eq.mpr rfl]
    exact Nat.compare_eq_gt.mpr lower

theorem precedes_of_compare {p q : NodeId × NodeId} (order : compare p q = .lt) : Precedes p q := by
  change (compare p.1 q.1).then (compare p.2 q.2) = .lt at order
  rcases Ordering.then_eq_lt.mp order with lower | ⟨same, lower⟩
  · exact .inl (Nat.compare_eq_lt.mp lower)
  · exact .inr ⟨Nat.compare_eq_eq.mp same, Nat.compare_eq_lt.mp lower⟩

/-- Delays with a default, to which rules are added one after the other. -/
def Delays.filled {ρ : Type} [Ord ρ] (fallback : Option Binary64)
    (rules : List ((ρ × ρ) × Binary64)) : Delays ρ :=
  rules.foldl (fun d rule => d.withRule rule.1.1 rule.1.2 rule.2) { fallback := fallback }

theorem Delays.filled_eq {ρ : Type} [Ord ρ] (fallback : Option Binary64)
    (rules : List ((ρ × ρ) × Binary64)) : filled fallback rules = ⟨fallback, .ofList rules⟩ := by
  have run (rules : List ((ρ × ρ) × Binary64)) (d : Delays ρ) :
      rules.foldl (fun d rule => d.withRule rule.1.1 rule.1.2 rule.2) d =
        ⟨d.fallback, rules.foldl (fun m rule => m.insert rule.1 rule.2) d.rules⟩ := by
    induction rules generalizing d with
    | nil => rfl
    | cons rule rules ih => exact ih _
  exact run rules _

theorem Configuration.delays_eq (c : Configuration) : c.delays =
    ⟨c.defaultDelay, .ofList (c.delayOverrides.map fun o => ((o.a, o.b), o.delay))⟩ := by
  rw [← Delays.filled_eq, Delays.filled, List.foldl_map, delays]

namespace Delays

theorem shaping_spec {d : Delays NodeId} {t : Topology} {links : List (NodeId × NodeId)}
    {s : LinkShaping} (member : s ∈ d.shaping t links) :
    (s.a, s.b) ∈ links ∧ d.delayOf? t (s.a, s.b) = some s.delay := by
  obtain ⟨⟨⟨a, b⟩, delay⟩, listed, rfl⟩ := List.mem_map.mp member
  obtain ⟨link, linked, own⟩ := List.mem_filterMap.mp (SortedMap.mem_of_mem_ofList _ listed)
  obtain ⟨x, found, same⟩ := Option.map_eq_some_iff.mp own
  obtain ⟨rfl, rfl⟩ := Prod.mk.inj same
  exact ⟨linked, found⟩

theorem mem_shaping_iff {d : Delays NodeId} {t : Topology} {links : List (NodeId × NodeId)}
    {s : LinkShaping} : s ∈ d.shaping t links ↔
      (s.a, s.b) ∈ links ∧ d.delayOf? t (s.a, s.b) = some s.delay := by
  constructor
  · exact shaping_spec
  · rintro ⟨linked, found⟩
    have entry : ((s.a, s.b), s.delay) ∈
        links.filterMap fun link => (d.delayOf? t link).map (link, ·) :=
      List.mem_filterMap.mpr ⟨_, linked, by rw [found, Option.map_some]⟩
    have key : (s.a, s.b) ∈ (d.generated t links).toList.map Prod.fst := by
      rw [generated, SortedMap.mem_keys_ofList]
      exact List.mem_map_of_mem entry
    obtain ⟨⟨link, delay⟩, listed, rfl⟩ := List.mem_map.mp key
    have shaped : (⟨s.a, s.b, delay⟩ : LinkShaping) ∈ d.shaping t links :=
      List.mem_map.mpr ⟨_, listed, rfl⟩
    have own : s.delay = delay := Option.some.inj (found.symm.trans (shaping_spec shaped).2)
    rw [← own] at shaped
    exact shaped

theorem shaping_eq_iff {d e : Delays NodeId} {t u : Topology} {links : List (NodeId × NodeId)} :
    d.shaping t links = e.shaping u links ↔
      ∀ link ∈ links, d.delayOf? t link = e.delayOf? u link := by
  constructor
  · intro same link linked
    ext delay
    have entry : ⟨link.1, link.2, delay⟩ ∈ d.shaping t links ↔
        ⟨link.1, link.2, delay⟩ ∈ e.shaping u links := by rw [same]
    rw [mem_shaping_iff, mem_shaping_iff] at entry
    simpa [linked] using entry
  · intro same
    have entries : links.filterMap (fun link => (d.delayOf? t link).map (link, ·)) =
        links.filterMap fun link => (e.delayOf? u link).map (link, ·) := by
      apply List.filterMap_congr
      intro link linked
      rw [same link linked]
    simp only [shaping, generated, entries]

theorem shaping_ascending (d : Delays NodeId) (t : Topology) (links : List (NodeId × NodeId)) :
    (d.shaping t links).Pairwise fun r s => Precedes (r.a, r.b) (s.a, s.b) := by
  rw [shaping, List.pairwise_map]
  exact (SortedMap.ascending_ofList _).imp precedes_of_compare

theorem shaping_eq (d : Delays NodeId) (t : Topology) {links : List (NodeId × NodeId)}
    (ascending : links.Pairwise Precedes) :
    d.shaping t links =
      links.filterMap fun link => (d.delayOf? t link).map fun x => ⟨link.1, link.2, x⟩ := by
  have entries : (links.filterMap fun link => (d.delayOf? t link).map (link, ·)).Pairwise
      fun first second => compare second.1 first.1 = .gt := by
    rw [List.pairwise_filterMap]
    apply ascending.imp
    intro p q before first own second other
    obtain ⟨_, _, rfl⟩ := Option.map_eq_some_iff.mp own
    obtain ⟨_, _, rfl⟩ := Option.map_eq_some_iff.mp other
    exact compare_of_precedes before
  rw [shaping, generated, SortedMap.toList_ofList entries, List.map_filterMap]
  simp only [Option.map_map]
  rfl

end Delays

end RelayMesh
