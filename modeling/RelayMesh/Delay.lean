import RelayMesh.Document.Form
import RelayMesh.SortedMap
import RelayMesh.Topology
import RelayMesh.Topology.Error

namespace RelayMesh

instance pairOrd [Ord α] [Ord β] : Ord (α × β) := lexOrd

/-- The default delay and the rules for single pairs, whose ends are given by `ρ`. -/
structure Delays (ρ : Type) where
  fallback : Option Binary64 := none
  rules : SortedMap (ρ × ρ) Binary64 := {}
deriving DecidableEq, Inhabited

structure LinkShaping where
  a : NodeId
  b : NodeId
  delay : Binary64
deriving DecidableEq, Inhabited

namespace Delays

def withFallback (d : Delays ρ) (delay : Binary64) : Delays ρ :=
  { d with fallback := some delay }

def withRule [Ord ρ] (d : Delays ρ) (a b : ρ) (delay : Binary64) : Delays ρ :=
  { d with rules := d.rules.insert (a, b) delay }

def resolveName (t : Topology) (name : String) : Except TopologyError NodeId :=
  match (t.nodeId? name).filter t.isRelay with
  | some id => .ok id
  | none => .error (.unknownNode "delays" name)

def resolveRule (t : Topology) (rule : (String × String) × Binary64) :
    Except TopologyError ((NodeId × NodeId) × Binary64) := do
  let a ← resolveName t rule.1.1
  let b ← resolveName t rule.1.2
  return ((a, b), rule.2)

def resolveRules (t : Topology) (rules : List ((String × String) × Binary64)) :
    Except TopologyError (SortedMap (NodeId × NodeId) Binary64) := do
  return SortedMap.ofList (← rules.mapM (resolveRule t))

/-- The delays between relays from those between names. The rules are visited in the order of their
keys; in another order another unknown name may be the one that is reported. -/
def resolve (d : Delays String) (t : Topology) : Except TopologyError (Delays NodeId) := do
  return ⟨d.fallback, ← resolveRules t d.rules.toList⟩

def delayOf? (d : Delays NodeId) (t : Topology) (link : NodeId × NodeId) : Option Binary64 :=
  (d.rules.get? link).or ((d.rules.get? (link.2, link.1)).or
    ((t.delayFor link.1 link.2).or d.fallback))

def generated (d : Delays NodeId) (t : Topology) (links : List (NodeId × NodeId)) :
    SortedMap (NodeId × NodeId) Binary64 :=
  .ofList (links.filterMap fun link => (d.delayOf? t link).map (link, ·))

def shaping (d : Delays NodeId) (t : Topology) (links : List (NodeId × NodeId)) :
    List LinkShaping :=
  (d.generated t links).toList.map fun ((a, b), delay) => ⟨a, b, delay⟩

end Delays

open Document (record? required? optional?)
open Form (write)

instance : Form LinkShaping where
  write s := .object [("a", write s.a), ("b", write s.b), ("delay_ms", write s.delay)]
  read? d := do
    match ← record? ["a", "b", "delay_ms"] d with
    | [a, b, delay] => return ⟨← required? a, ← required? b, ← required? delay⟩
    | _ => none

instance [Form ρ] [Ord ρ] : Form (Delays ρ) where
  write d := .object [("default", write d.fallback), ("exceptions", write d.rules)]
  read? d := do
    match ← record? ["default", "exceptions"] d with
    | [fallback, rules] => return ⟨← optional? fallback, ← required? rules⟩
    | _ => none

end RelayMesh
