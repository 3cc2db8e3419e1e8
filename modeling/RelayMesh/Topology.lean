import RelayMesh.Binary64

namespace RelayMesh

abbrev NodeId := Nat

inductive NodeKind where
  | relay
  | publisher
  | subscriber
  | control
deriving DecidableEq, Inhabited

structure Node where
  id : NodeId
  name : String
  kind : NodeKind
deriving DecidableEq, Inhabited

inductive HopRole where
  | firstHop
  | lastHop
deriving DecidableEq, Inhabited

structure Edge where
  a : NodeId
  b : NodeId
  delay : Option Binary64
deriving DecidableEq, Inhabited

def orderedPair (x y : NodeId) : NodeId × NodeId :=
  if x ≤ y then (x, y) else (y, x)

def Edge.pair (e : Edge) : NodeId × NodeId :=
  orderedPair e.a e.b

def Edge.connects (e : Edge) (x y : NodeId) : Bool :=
  (e.a == x && e.b == y) || (e.a == y && e.b == x)

structure Attachment where
  track : String
  relay : NodeId
  role : HopRole
  host : NodeId
deriving DecidableEq, Inhabited

inductive DuplicateEdges where
  | firstWins
  | reject
deriving DecidableEq, Inhabited

structure Topology where
  nodes : List Node
  numRelays : Nat
  edges : List Edge
  attachments : List Attachment
  control : NodeId
deriving DecidableEq, Inhabited

def pairsBelow (n : Nat) : List (Nat × Nat) :=
  (List.range n).flatMap fun i => (List.range' (i + 1) (n - (i + 1))).map fun j => (i, j)

def pairLe (p q : NodeId × NodeId) : Bool :=
  p.1 < q.1 || (p.1 == q.1 && p.2 ≤ q.2)

namespace Topology

def relayIds (t : Topology) : List NodeId :=
  List.range t.numRelays

def relays (t : Topology) : List Node :=
  t.nodes.take t.numRelays

def isRelay (t : Topology) (id : NodeId) : Bool :=
  id < t.numRelays

def name (t : Topology) (id : NodeId) : String :=
  (t.nodes[id]?.map (·.name)).getD ""

def nodeId? (t : Topology) (name : String) : Option NodeId :=
  (t.nodes.find? fun node => node.name == name).map (·.id)

def declaredPairs (t : Topology) : List (NodeId × NodeId) :=
  (t.edges.map Edge.pair).eraseDups.mergeSort pairLe

def allPairs (t : Topology) : List (NodeId × NodeId) :=
  pairsBelow t.numRelays

def pairCount (t : Topology) : Nat :=
  t.numRelays * (t.numRelays - 1) / 2

def attachmentsOf (t : Topology) (relay : NodeId) (role : HopRole) : List Attachment :=
  t.attachments.filter fun a => a.relay == relay && a.role == role

def attachmentOfHost? (t : Topology) (host : NodeId) : Option Attachment :=
  t.attachments.find? fun a => a.host == host

def tracks (t : Topology) : List String :=
  (t.attachments.map (·.track)).eraseDups

def measuredTracks (t : Topology) : List String :=
  t.tracks.filter fun track =>
    t.attachments.any fun a => a.track == track && a.role == .lastHop

/-- The delay of a link: that of the first edge between the two relays, if that edge has one. -/
def delayFor (t : Topology) (x y : NodeId) : Option Binary64 :=
  (t.edges.find? fun e => e.connects x y).bind (·.delay)

end Topology

end RelayMesh
