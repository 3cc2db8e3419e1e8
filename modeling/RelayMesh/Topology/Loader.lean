import RelayMesh.Decimal.Reading
import RelayMesh.Decimal.Style
import RelayMesh.Document
import RelayMesh.Text.Classes
import RelayMesh.Topology
import RelayMesh.Topology.Error

namespace RelayMesh

def nameCandidate (name : String) (k : Nat) : String :=
  if k = 0 then name else s!"{name}-{k + 1}"

/-- The first free candidate from the given one on; the last one tried if the fuel runs out. -/
def freeNameFrom (name : String) (taken : List String) : Nat → Nat → String
  | 0, k => nameCandidate name k
  | fuel + 1, k =>
    if taken.contains (nameCandidate name k) then freeNameFrom name taken fuel (k + 1)
    else nameCandidate name k

def freeName (name : String) (taken : List String) : String :=
  freeNameFrom name taken taken.length 0

def freeNames (taken : List String) : List String → List String
  | [] => []
  | wanted :: rest =>
    let name := freeName wanted taken
    name :: freeNames (name :: taken) rest

/-- The largest number of relays that a document may ask for by their number alone. -/
def maxRelays : Nat := 65536

def controlName : String := "api"

namespace Topology

open Document (lookup)

def invalid (field : String) (reason : Expectation) : Except TopologyError α :=
  .error (.invalidField field reason)

def nonEmptyText? : Document → Option String
  | .text s => if s = "" then none else some s
  | _ => none

def relayName (path : String) (entry : Document) : Except TopologyError String :=
  match nonEmptyText? entry with
  | some name => .ok name
  | none =>
    match entry with
    | .object fields =>
      match lookup "name" fields with
      | none => .error (.missingField s!"{path}.name")
      | some value =>
        match nonEmptyText? value with
        | some name => .ok name
        | none => invalid s!"{path}.name" .text
    | _ => invalid path .nodeName

def relayNameList (field : String) : Document → Except TopologyError (List String)
  | .list items => items.zipIdx.mapM fun (item, i) => relayName s!"{field}[{i}]" item
  | _ => invalid field .sequence

def numberedNames (n : Nat) : List String :=
  (List.range n).map fun i => s!"r{i + 1}"

def firstRepeated? [BEq α] (seen : List α) : List α → Option α
  | [] => none
  | a :: rest => if seen.contains a then some a else firstRepeated? (a :: seen) rest

def distinctNames (names : List String) : Except TopologyError (List String) :=
  match firstRepeated? [] names with
  | some name => .error (.duplicateNode name)
  | none => .ok names

def countedNames : Document → Except TopologyError (List String)
  | .int i =>
    if i < 0 then invalid "nodes.number" .count
    else if maxRelays < i.toNat then invalid "nodes.number" (.atMostRelays maxRelays i.toNat)
    else .ok (numberedNames i.toNat)
  | _ => invalid "nodes.number" .count

def relayNames : Document → Except TopologyError (List String)
  | .object fields =>
    match lookup "names" fields with
    | some names => relayNameList "nodes.names" names >>= distinctNames
    | none =>
      match lookup "number" fields with
      | some number => countedNames number
      | none => .error (.missingField "nodes.number")
  | .list items => relayNameList "nodes" (.list items) >>= distinctNames
  | _ => invalid "nodes" .mappingOrSequence

def relayAt (field : String) (numRelays i : Nat) : Except TopologyError NodeId :=
  if 1 ≤ i ∧ i ≤ numRelays then .ok (i - 1) else .error (.unknownNode field (toString i))

def resolveRelay (field : String) (names : List String) : Document → Except TopologyError NodeId
  | .int i =>
    if 0 ≤ i then relayAt field names.length i.toNat
    else .error (.unknownNode field (toString i))
  | .float x => .error (.unknownNode field (String.ofList (Decimal.tableStyle.render x)))
  | .text s =>
    match names.idxOf? s with
    | some id => .ok id
    | none =>
      match Text.unsigned? UInt64.size s with
      | some i => relayAt field names.length i
      | none => .error (.unknownNode field s)
  | _ => invalid field .relayReference

def dropUnit (cs : List Char) : List Char :=
  dropReversed cs.reverse |>.reverse
where
  dropReversed : List Char → List Char
    | 's' :: 'm' :: rest => dropReversed rest
    | cs => cs

def delayValue? : Document → Option Binary64
  | .int i => some (.ofInt i)
  | .float x => some x
  | .text s => Decimal.ofChars? (Text.trim (dropUnit (Text.trim s.toList)))
  | _ => none

def isDelay (x : Binary64) : Bool :=
  x.isFinite && (!x.isNegative || x.isZero)

def delay (field : String) (d : Document) : Except TopologyError (Option Binary64) :=
  match d with
  | .null => .ok none
  | d =>
    match (delayValue? d).filter isDelay with
    | some x => .ok (some x)
    | none => invalid field .delay

/-- The delay of an edge: its own field, or else the latency among its attributes. -/
def edgeDelay (path : String) (fields : List (String × Document)) :
    Except TopologyError (Option Binary64) :=
  match lookup "delay" fields with
  | some d => delay s!"{path}.delay" d
  | none =>
    match lookup "attributes" fields with
    | none => .ok none
    | some (.object attributes) =>
      match lookup "latency" attributes with
      | some d => delay s!"{path}.attributes.latency" d
      | none => .ok none
    | some _ => invalid s!"{path}.attributes" .mapping

def endpoint (path : String) (names : List String) (fields : List (String × Document))
    (key : String) : Except TopologyError NodeId :=
  match lookup key fields with
  | some d => resolveRelay s!"{path}.{key}" names d
  | none => .error (.missingField s!"{path}.{key}")

def edge (names : List String) (i : Nat) : Document → Except TopologyError Edge
  | .object fields => do
    let path := s!"edges[{i}]"
    let a ← endpoint path names fields "node1"
    let b ← endpoint path names fields "node2"
    let delay ← edgeDelay path fields
    return ⟨a, b, delay⟩
  | _ => invalid s!"edges[{i}]" .mapping

def optionalList (field : String) (fields : List (String × Document)) :
    Except TopologyError (List Document) :=
  match lookup field fields with
  | none => .ok []
  | some .null => .ok []
  | some (.list items) => .ok items
  | some _ => invalid field .sequence

def checkLoops (names : List String) (edges : List Edge) : Except TopologyError Unit :=
  match edges.zipIdx.find? fun (e, _) => e.a == e.b with
  | some (e, i) => .error (.selfLoop i (names[e.a]?.getD ""))
  | none => .ok ()

def checkDuplicates (policy : DuplicateEdges) (names : List String) (edges : List Edge) :
    Except TopologyError Unit :=
  match policy with
  | .firstWins => .ok ()
  | .reject =>
    match firstRepeated? [] (edges.map Edge.pair) with
    | some (a, b) => .error (.duplicateEdge (names[a]?.getD "") (names[b]?.getD ""))
    | none => .ok ()

def edgeList (policy : DuplicateEdges) (names : List String) (fields : List (String × Document)) :
    Except TopologyError (List Edge) := do
  let items ← optionalList "edges" fields
  let edges ← items.zipIdx.mapM fun (item, i) => edge names i item
  checkLoops names edges
  checkDuplicates policy names edges
  return edges

def hopTrack (path : String) (fields : List (String × Document)) : Except TopologyError String :=
  match lookup "track" fields with
  | none => .error (.missingField s!"{path}.track")
  | some d =>
    match nonEmptyText? d with
    | some track => .ok track
    | none => invalid s!"{path}.track" .trackName

def hopRelay (path : String) (names : List String) (fields : List (String × Document)) :
    Except TopologyError NodeId :=
  match lookup "relay" fields, lookup "node" fields with
  | some d, _ => resolveRelay s!"{path}.relay" names d
  | none, some d => resolveRelay s!"{path}.node" names d
  | none, none => .error (.missingField s!"{path}.relay")

def hop (path : String) (names : List String) : Document → Except TopologyError (String × NodeId)
  | .object fields => do
    let track ← hopTrack path fields
    let relay ← hopRelay path names fields
    return (track, relay)
  | _ => invalid path .mapping

/-- The name of the list of hops with a role, and the wanted names of its clients. -/
def hopField : HopRole → String
  | .firstHop => "first_hop_relay"
  | .lastHop => "last_hop_relay"

def clientName : HopRole → Nat → String
  | .firstHop, i => s!"pub{i + 1}"
  | .lastHop, i => s!"sub{i + 1}"

def clientKind : HopRole → NodeKind
  | .firstHop => .publisher
  | .lastHop => .subscriber

def hops (names : List String) (fields : List (String × Document)) (role : HopRole) :
    Except TopologyError (List (String × NodeId)) := do
  let items ← optionalList (hopField role) fields
  items.zipIdx.mapM fun (item, i) => hop s!"{hopField role}[{i}]" names item

def attachmentsFrom (first : NodeId) (clients : List (HopRole × String × NodeId)) :
    List Attachment :=
  clients.zipIdx.map fun ((role, track, relay), i) => ⟨track, relay, role, first + i⟩

def checkPublished (attachments : List Attachment) : Except TopologyError Unit :=
  let published := (attachments.filter (·.role == .firstHop)).map (·.track)
  match attachments.find? fun a => a.role == .lastHop && !published.contains a.track with
  | some a => .error (.trackWithoutPublisher a.track)
  | none => .ok ()

def numberedNodes (entries : List (String × NodeKind)) : List Node :=
  entries.zipIdx.map fun ((name, kind), i) => ⟨i, name, kind⟩

def assemble (names : List String) (edges : List Edge) (first last : List (String × NodeId)) :
    Topology :=
  let clients := first.map (HopRole.firstHop, ·) ++ last.map (HopRole.lastHop, ·)
  let wanted := first.zipIdx.map (clientName .firstHop ·.2)
    ++ last.zipIdx.map (clientName .lastHop ·.2) ++ [controlName]
  let kinds := clients.map (clientKind ·.1) ++ [.control]
  let relays := names.map ((·, NodeKind.relay))
  { nodes := numberedNodes (relays ++ (freeNames names wanted).zip kinds)
    numRelays := names.length
    edges := edges
    attachments := attachmentsFrom names.length clients
    control := names.length + clients.length }

def load (policy : DuplicateEdges) : Document → Except TopologyError Topology
  | .object fields => do
    let names ← match lookup "nodes" fields with
      | some nodes => relayNames nodes
      | none => .error (.missingField "nodes")
    if names = [] then .error .noRelays
    let edges ← edgeList policy names fields
    let first ← hops names fields .firstHop
    let last ← hops names fields .lastHop
    let topology := assemble names edges first last
    checkPublished topology.attachments
    return topology
  | _ => invalid "<root>" .mapping

end Topology

end RelayMesh
