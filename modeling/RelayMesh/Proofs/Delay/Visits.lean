import Mathlib.Data.List.Perm.Basic
import RelayMesh.Proofs.Delay.Rules
import RelayMesh.Proofs.Delay.Values
import RelayMesh.Proofs.Topology.Kinds

namespace RelayMesh

open Checked (bind_ok bind_error pure_ok)

def Topology.Blames (t : Topology) (ends : String × String) (name : String) : Prop :=
  ¬ t.HasRelay name ∧ (name = ends.1 ∨ t.HasRelay ends.1 ∧ name = ends.2)

theorem pairLe_of_precedes {p q : NodeId × NodeId} (before : Precedes p q) : pairLe p q = true := by
  simp only [pairLe, Bool.or_eq_true, Bool.and_eq_true, decide_eq_true_eq, beq_iff_eq]
  exact before.imp_right fun below => ⟨below.1, Nat.le_of_lt below.2⟩

theorem Configuration.ascending_rules (c : Configuration) :
    SortedMap.Ascending c.delays.rules.toList := by
  rw [c.delays_eq]
  exact SortedMap.ascending_ofList _

namespace Delays

/-- The delays between relays from those between names, with the rules visited in some order. -/
def resolveVisiting
    (visit : List ((String × String) × Binary64) → List ((String × String) × Binary64))
    (d : Delays String) (t : Topology) : Except TopologyError (Delays NodeId) := do
  return ⟨d.fallback, ← resolveRules t (visit d.rules.toList)⟩

def shapingOf (visited : List ((NodeId × NodeId) × Binary64)) : List LinkShaping :=
  (visited.map fun ((a, b), delay) => ⟨a, b, delay⟩).mergeSort fun x y => pairLe (x.a, x.b) (y.a, y.b)

theorem shapingOf_perm {d : Delays NodeId} {t : Topology} {links : List (NodeId × NodeId)}
    {visited : List ((NodeId × NodeId) × Binary64)}
    (perm : visited.Perm (d.generated t links).toList) :
    shapingOf visited = d.shaping t links := by
  have ascending := d.shaping_ascending t links
  have distinct : ((d.shaping t links).map fun x => (x.a, x.b)).Nodup :=
    List.pairwise_map.mpr (ascending.imp Precedes.ne)
  have same : (shapingOf visited).Perm (d.shaping t links) :=
    (List.mergeSort_perm _ _).trans (perm.map _)
  have sorted : (shapingOf visited).Pairwise fun x y => pairLe (x.a, x.b) (y.a, y.b) = true := by
    apply List.pairwise_mergeSort
    · intro x y z
      exact pairLe_trans
    · intro x y
      exact pairLe_total _ _
  refine same.eq_of_pairwise (fun x y memberX memberY before after => ?_) sorted
    (ascending.imp pairLe_of_precedes)
  exact List.inj_on_of_nodup_map distinct (same.mem_iff.mp memberX) memberY
    (pairLe_antisymm before after)

section Loaded

variable {policy : DuplicateEdges} {doc : Document} {t : Topology}
  (loaded : Topology.load policy doc = .ok t)
include loaded

theorem name_of_resolveName {name : String} {id : NodeId} (found : resolveName t name = .ok id) :
    t.name id = name := by
  unfold resolveName at found
  split at found
  · rename_i _ hit
    cases found
    obtain ⟨node, member, own, rfl⟩ :=
      (Topology.nodeId?_eq_some_iff loaded).mp (Option.filter_eq_some_iff.mp hit).1
    rw [Topology.name_of_load loaded member, own]
  · cases found

theorem resolveName_eq_error {name : String} (unknown : ¬ t.HasRelay name) :
    resolveName t name = .error (.unknownNode "delays" name) := by
  rw [← resolveName_ok_iff loaded, ← Checked.exists_error_iff] at unknown
  obtain ⟨e, failed⟩ := unknown
  rw [failed, (resolveName_error loaded failed).2]

theorem resolveRule_error_iff {rule : (String × String) × Binary64} {e : TopologyError} :
    resolveRule t rule = .error e ↔
      ∃ name, t.Blames rule.1 name ∧ e = .unknownNode "delays" name := by
  rw [resolveRule, bind_error]
  constructor
  · rintro (failed | ⟨a, known, failed⟩)
    · obtain ⟨unknown, report⟩ := resolveName_error loaded failed
      exact ⟨_, ⟨unknown, .inl rfl⟩, report⟩
    · rcases bind_error.mp failed with failed | ⟨_, _, impossible⟩
      · obtain ⟨unknown, report⟩ := resolveName_error loaded failed
        exact ⟨_, ⟨unknown, .inr ⟨(resolveName_ok_iff loaded).mp ⟨a, known⟩, rfl⟩⟩, report⟩
      · cases impossible
  · rintro ⟨name, ⟨unknown, rfl | ⟨first, rfl⟩⟩, rfl⟩
    · exact .inl (resolveName_eq_error loaded unknown)
    · obtain ⟨a, known⟩ := (resolveName_ok_iff loaded).mpr first
      exact .inr ⟨a, known, bind_error.mpr (.inl (resolveName_eq_error loaded unknown))⟩

theorem resolveRules_perm {first second : List ((String × String) × Binary64)}
    (distinct : (first.map Prod.fst).Nodup) (perm : second.Perm first)
    {rules : SortedMap (NodeId × NodeId) Binary64} (done : resolveRules t first = .ok rules) :
    resolveRules t second = .ok rules := by
  simp only [resolveRules, bind_ok, pure_ok] at done ⊢
  obtain ⟨resolved, each, rfl⟩ := done
  obtain ⟨others, eachOther, same⟩ := List.perm_comp_forall₂ perm (Checked.mapM_ok.mp each)
  have names : resolved.map (fun rule => (t.name rule.1.1, t.name rule.1.2)) = first.map (·.1) := by
    refine Checked.map_of_mapM_ok each _ _ fun rule result own => ?_
    simp only [resolveRule, bind_ok, pure_ok] at own
    obtain ⟨a, foundA, b, foundB, rfl⟩ := own
    rw [name_of_resolveName loaded foundA, name_of_resolveName loaded foundB]
  have apart : (resolved.map Prod.fst).Nodup := by
    apply List.Nodup.of_map fun pair => (t.name pair.1, t.name pair.2)
    rw [List.map_map]
    exact names ▸ distinct
  exact ⟨others, Checked.mapM_ok.mpr eachOther, (SortedMap.ofList_perm apart same.symm).symm⟩

theorem resolveRules_error {rules : List ((String × String) × Binary64)} {e : TopologyError}
    (failed : resolveRules t rules = .error e) :
    ∃ rule ∈ rules, ∃ name, t.Blames rule.1 name ∧ e = .unknownNode "delays" name := by
  rcases bind_error.mp failed with failed | ⟨_, _, impossible⟩
  · obtain ⟨before, rule, after, rfl, _, here⟩ := Checked.mapM_error.mp failed
    exact ⟨rule, by simp, (resolveRule_error_iff loaded).mp here⟩
  · cases impossible

theorem resolveRules_cons_error {rule : (String × String) × Binary64}
    {rules : List ((String × String) × Binary64)} {name : String}
    (blamed : t.Blames rule.1 name) :
    resolveRules t (rule :: rules) = .error (.unknownNode "delays" name) := by
  have here := (resolveRule_error_iff loaded).mpr ⟨name, blamed, rfl⟩
  refine bind_error.mpr (.inl (Checked.mapM_error.mpr ?_))
  exact ⟨[], rule, rules, rfl, nofun, here⟩

end Loaded

end Delays

end RelayMesh
