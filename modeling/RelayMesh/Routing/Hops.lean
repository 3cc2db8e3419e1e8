/-!
Hop distances in the graph of a mesh. A table of distances to one relay is filled round by round:
after round `k` it holds exactly the relays at most `k` hops away. Each round is stored, so that no
distance is computed twice.
-/

namespace RelayMesh

/-- A graph without directions: the nodes below `size`, and pairs of connected ones. -/
structure MeshGraph where
  size : Nat
  pairs : List (Nat × Nat)

/-- The distances of all nodes to one of them; none for a node that has not been reached. -/
abbrev HopTable := Array (Option Nat)

namespace MeshGraph

def neighbours (g : MeshGraph) (x : Nat) : List Nat :=
  g.pairs.filterMap fun (a, b) => if a = x then some b else if b = x then some a else none

def neighbourTable (g : MeshGraph) : Array (List Nat) :=
  Array.ofFn fun x : Fin g.size => g.neighbours x

def distance? (table : HopTable) (x : Nat) : Option Nat :=
  table[x]?.join

def start (g : MeshGraph) (target : Nat) : HopTable :=
  Array.ofFn fun x : Fin g.size => if x = target then some 0 else none

/-- Adds the nodes that have a neighbour at distance `k` to a table of all nodes up to there. -/
def extend (neighbours : Array (List Nat)) (table : HopTable) (k : Nat) : HopTable :=
  Array.ofFn fun x : Fin table.size =>
    match table[x] with
    | some d => some d
    | none =>
      if (neighbours[x]?.getD []).any fun y => distance? table y == some k then some (k + 1)
      else none

/-- The distances of all nodes to a target. No distance exceeds the number of nodes. -/
def distancesTo (g : MeshGraph) (neighbours : Array (List Nat)) (target : Nat) : HopTable :=
  (List.range g.size).foldl (extend neighbours) (g.start target)

def distances (g : MeshGraph) : Array HopTable :=
  let neighbours := g.neighbourTable
  Array.ofFn fun target : Fin g.size => g.distancesTo neighbours target

def hops? (tables : Array HopTable) (source target : Nat) : Option Nat :=
  tables[target]?.bind fun table => distance? table source

def components (g : MeshGraph) (tables : Array HopTable) : Nat :=
  (List.range g.size).countP fun x =>
    (List.range x).all fun y => (hops? tables x y).isNone

end MeshGraph

end RelayMesh
