import RelayMesh.Proofs.Delay.Values
import RelayMesh.Proofs.Topology.Nodes

namespace RelayMesh

open Checked (bind_ok bind_error pure_ok)

def Topology.HasRelay (t : Topology) (name : String) : Prop :=
  name ∈ t.relays.map (·.name)

instance (t : Topology) (name : String) : Decidable (t.HasRelay name) :=
  inferInstanceAs (Decidable (name ∈ t.relays.map (·.name)))

theorem Configuration.mem_ruleKeys {c : Configuration} {key : String × String} :
    key ∈ c.delays.rules.toList.map Prod.fst ↔ ∃ o ∈ c.delayOverrides, (o.a, o.b) = key := by
  rw [c.delays_eq, SortedMap.mem_keys_ofList]
  simp

namespace Delays

section Loaded

variable {policy : DuplicateEdges} {doc : Document} {t : Topology}
  (loaded : Topology.load policy doc = .ok t)
include loaded

theorem resolveName_ok_iff {name : String} :
    (∃ id, resolveName t name = .ok id) ↔ t.HasRelay name := by
  have found : (∃ id, (t.nodeId? name).filter t.isRelay = some id) ↔ t.HasRelay name := by
    simp only [Option.filter_eq_some_iff, Topology.nodeId?_eq_some_iff loaded, Topology.HasRelay,
      List.mem_map, Topology.mem_relays_of_load loaded, Topology.isRelay, decide_eq_true_eq]
    constructor
    · rintro ⟨_, ⟨node, member, own, rfl⟩, below⟩
      exact ⟨node, ⟨member, below⟩, own⟩
    · rintro ⟨node, ⟨member, below⟩, own⟩
      exact ⟨node.id, ⟨node, member, own, rfl⟩, below⟩
  rw [← found, resolveName]
  cases (t.nodeId? name).filter t.isRelay with
  | none => simp
  | some id => simp

theorem resolveName_error {name : String} {e : TopologyError}
    (failed : resolveName t name = .error e) :
    ¬ t.HasRelay name ∧ e = .unknownNode "delays" name := by
  constructor
  · rw [← resolveName_ok_iff loaded, ← Checked.exists_error_iff]
    exact ⟨e, failed⟩
  · unfold resolveName at failed
    split at failed
    · cases failed
    · exact (Except.error.inj failed).symm

variable {c : Configuration}

theorem resolve_error {e : TopologyError} (failed : c.delays.resolve t = .error e) :
    ∃ o ∈ c.delayOverrides, ∃ name, (name = o.a ∨ name = o.b) ∧ ¬ t.HasRelay name ∧
      e = .unknownNode "delays" name := by
  have run : c.delays.rules.toList.mapM (resolveRule t) = .error e := by
    rcases bind_error.mp failed with failed | ⟨_, _, impossible⟩
    · rcases bind_error.mp failed with failed | ⟨_, _, impossible⟩
      · exact failed
      · cases impossible
    · cases impossible
  obtain ⟨before, rule, after, split, _, here⟩ := Checked.mapM_error.mp run
  have key : rule.1 ∈ c.delays.rules.toList.map Prod.fst := by
    rw [split]
    simp
  obtain ⟨o, member, ends⟩ := Configuration.mem_ruleKeys.mp key
  refine ⟨o, member, ?_⟩
  rw [resolveRule, ← ends] at here
  rcases bind_error.mp here with first | ⟨_, _, here⟩
  · exact ⟨o.a, .inl rfl, resolveName_error loaded first⟩
  · rcases bind_error.mp here with second | ⟨_, _, impossible⟩
    · exact ⟨o.b, .inr rfl, resolveName_error loaded second⟩
    · cases impossible

theorem resolve_ok_iff : (∃ delays, c.delays.resolve t = .ok delays) ↔
    ∀ o ∈ c.delayOverrides, t.HasRelay o.a ∧ t.HasRelay o.b := by
  constructor
  · rintro ⟨delays, done⟩ o member
    simp only [resolve, resolveRules, bind_ok, pure_ok] at done
    obtain ⟨_, ⟨_, each, _⟩, _⟩ := done
    have key := Configuration.mem_ruleKeys.mpr ⟨o, member, rfl⟩
    obtain ⟨rule, listed, ends⟩ := List.mem_map.mp key
    obtain ⟨_, _, resolved⟩ := Checked.exists_of_mapM_ok each listed
    rw [resolveRule, ends] at resolved
    simp only [bind_ok] at resolved
    obtain ⟨a, first, b, second, _⟩ := resolved
    exact ⟨(resolveName_ok_iff loaded).mp ⟨a, first⟩, (resolveName_ok_iff loaded).mp ⟨b, second⟩⟩
  · intro each
    by_contra refused
    obtain ⟨e, failed⟩ := Checked.exists_error_iff.mpr refused
    obtain ⟨o, member, name, own, unknown, _⟩ := resolve_error loaded failed
    obtain ⟨first, second⟩ := each o member
    rcases own with rfl | rfl
    · exact unknown first
    · exact unknown second

end Loaded

end Delays

end RelayMesh
