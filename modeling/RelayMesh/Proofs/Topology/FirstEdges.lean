import RelayMesh.Proofs.Keyed
import RelayMesh.Proofs.Topology.Kinds
import RelayMesh.Proofs.Topology.Pairs

namespace RelayMesh

theorem Edge.connects_eq (x y : NodeId) :
    (fun e : Edge => e.connects x y) = fun e => e.pair == orderedPair x y := by
  funext e
  rw [Bool.eq_iff_iff, connects_iff, beq_iff_eq]

def Edge.oriented (e : Edge) : Edge :=
  ⟨e.pair.1, e.pair.2, e.delay⟩

@[simp] theorem Edge.pair_oriented (e : Edge) : e.oriented.pair = e.pair :=
  orderedPair_idem e.a e.b

theorem Edge.oriented_ne {e : Edge} (different : e.a ≠ e.b) : e.oriented.a ≠ e.oriented.b := by
  simp only [Edge.oriented, Edge.pair]
  rcases orderedPair_eq e.a e.b with same | same
  · rw [same]
    exact different
  · rw [same]
    exact different.symm

def firstEdges (edges : List Edge) : List Edge :=
  ((firstBy Edge.pair edges).map Edge.oriented).mergeSort fun x y => pairLe x.pair y.pair

theorem perm_firstEdges (edges : List Edge) :
    (firstEdges edges).Perm ((firstBy Edge.pair edges).map Edge.oriented) :=
  List.mergeSort_perm _ _

theorem mem_firstEdges {edges : List Edge} {e : Edge} (member : e ∈ firstEdges edges) :
    ∃ f ∈ edges, f.oriented = e := by
  obtain ⟨f, kept, own⟩ := List.mem_map.mp ((perm_firstEdges edges).mem_iff.mp member)
  exact ⟨f, firstBy_subset _ _ kept, own⟩

theorem map_pair_oriented (edges : List Edge) :
    (edges.map Edge.oriented).map Edge.pair = edges.map Edge.pair := by
  rw [List.map_map]
  exact List.map_congr_left fun e _ => e.pair_oriented

theorem nodup_pairs_firstEdges (edges : List Edge) : ((firstEdges edges).map Edge.pair).Nodup := by
  rw [((perm_firstEdges edges).map Edge.pair).nodup_iff, map_pair_oriented]
  exact nodup_map_firstBy Edge.pair edges

theorem find?_firstEdges (edges : List Edge) (pair : NodeId × NodeId) :
    (firstEdges edges).find? (fun e => e.pair == pair) =
      (edges.find? fun e => e.pair == pair).map Edge.oriented := by
  rw [find?_perm Edge.pair (perm_firstEdges edges) (nodup_pairs_firstEdges edges), List.find?_map,
    ← find?_firstBy Edge.pair (· == pair)]
  simp only [Function.comp_def, Edge.pair_oriented]

namespace Topology

/-- One edge for each declared pair, in the order of the pairs: the lower relay comes first, and the
delay is that of the first edge that connects the two. -/
structure FirstOfPairs (t : Topology) (edges : List Edge) : Prop where
  ends : edges.map (fun e => (e.a, e.b)) = t.declaredPairs
  delays : ∀ e ∈ edges, ∃ f, t.edges.find? (fun f => f.connects e.a e.b) = some f ∧
    e.delay = f.delay

theorem delayFor_firstEdges (t : Topology) (x y : NodeId) :
    delayFor { t with edges := firstEdges t.edges } x y = t.delayFor x y := by
  rw [delayFor, delayFor, Edge.connects_eq, find?_firstEdges]
  cases t.edges.find? (fun e => e.pair == orderedPair x y) <;> rfl

theorem declaredPairs_firstEdges (t : Topology) :
    declaredPairs { t with edges := firstEdges t.edges } = t.declaredPairs := by
  apply eq_of_pairwise_precedes (pairwise_declaredPairs _) (pairwise_declaredPairs _)
  intro pair
  have found : ∀ t : Topology, pair ∈ t.declaredPairs ↔
      (t.edges.find? fun e => e.pair == pair).isSome = true := by
    intro t
    simp only [mem_declaredPairs, List.find?_isSome, beq_iff_eq]
  rw [found, found, find?_firstEdges, Option.isSome_map]

theorem firstOfPairs_firstEdges (t : Topology) : t.FirstOfPairs (firstEdges t.edges) := by
  have own : ∀ e ∈ firstEdges t.edges, (e.a, e.b) = e.pair := by
    intro e member
    obtain ⟨f, _, rfl⟩ := mem_firstEdges member
    exact f.pair_oriented.symm
  constructor
  · -- Kept edges sorted by their pairs are, seen by their pairs, the sorted pairs.
    have sorted : (firstEdges t.edges).map Edge.pair =
        ((firstBy Edge.pair t.edges).map Edge.pair).mergeSort pairLe := by
      rw [firstEdges, List.map_mergeSort (s := pairLe) fun _ _ _ _ => rfl, map_pair_oriented]
    rw [List.map_congr_left own, sorted]
    apply eq_of_pairwise_precedes
    · exact pairwise_mergeSort_pairs (nodup_map_firstBy _ _)
    · exact pairwise_declaredPairs t
    intro pair
    rw [← sorted, ← declaredPairs_firstEdges, mem_declaredPairs, List.mem_map]
  · intro e member
    have single := filter_eq_singleton Edge.pair (nodup_pairs_firstEdges t.edges) member
    have found := find?_firstEdges t.edges e.pair
    rw [← List.head?_filter, single, List.head?_cons] at found
    obtain ⟨f, first, rfl⟩ := Option.map_eq_some_iff.mp found.symm
    refine ⟨f, ?_, rfl⟩
    rw [Edge.connects_eq]
    exact first

open Document (lookup)

def otherEnd (key : String) : String :=
  if key = "node1" then "node2" else if key = "node2" then "node1" else key

def exchanged : Document → Document
  | .object fields => .object (fields.map fun (key, d) => (otherEnd key, d))
  | d => d

/-- The edge that a record describes. What describes none gets a fixed one. -/
def recordEdge (names : List String) (item : Document) : Edge :=
  match edge names 0 item with
  | .ok e => e
  | .error _ => default

def orientedRecord (names : List String) (item : Document) : Document :=
  if (recordEdge names item).b < (recordEdge names item).a then exchanged item else item

/-- The first record of each pair, with its lower end first, in the order of the pairs. -/
def firstRecords (names : List String) (items : List Document) : List Document :=
  ((firstBy (fun item => (recordEdge names item).pair) items).map
    (orientedRecord names)).mergeSort fun x y =>
      pairLe (recordEdge names x).pair (recordEdge names y).pair

/-- The field of the edges with one record for each pair; all others stay. -/
def normalField (names : List String) (key : String) (d : Document) : Document :=
  match d with
  | .list items => if key = "edges" then .list (firstRecords names items) else d
  | d => d

def normalDocument (names : List String) : Document → Document
  | .object fields => .object (fields.map fun (key, d) => (key, normalField names key d))
  | d => d

theorem otherEnd_otherEnd (key : String) : otherEnd (otherEnd key) = key := by
  unfold otherEnd
  grind

theorem lookup_map_keys (key : String) (fields : List (String × Document)) :
    lookup key (fields.map fun (key, d) => (otherEnd key, d)) = lookup (otherEnd key) fields := by
  have same : ∀ other, (otherEnd other == key) = (other == otherEnd key) := by
    intro other
    rw [Bool.eq_iff_iff, beq_iff_eq, beq_iff_eq]
    constructor
    · rintro rfl
      exact (otherEnd_otherEnd other).symm
    · rintro rfl
      exact otherEnd_otherEnd key
  rw [lookup, lookup, List.find?_map, Option.map_map]
  simp only [Function.comp_def, same]

theorem lookup_map_values (change : String → Document → Document) (key : String)
    (fields : List (String × Document)) :
    lookup key (fields.map fun (key, d) => (key, change key d)) =
      (lookup key fields).map (change key) := by
  rw [lookup, lookup, List.find?_map, Option.map_map, Option.map_map]
  apply Option.map_congr
  intro field found
  have own : field.1 = key := by simpa using List.find?_some found
  simp only [Function.comp_apply, own]

theorem recordEdge_eq {names : List String} {item : Document} {e : Edge}
    (described : DescribesEdge names item e) : recordEdge names item = e := by
  rw [recordEdge, edge_ok.mpr described]

theorem EdgeDelay.exchanged {fields : List (String × Document)} {x : Option Binary64}
    (given : EdgeDelay fields x) :
    EdgeDelay (fields.map fun (key, d) => (otherEnd key, d)) x := by
  have same : ∀ key, otherEnd key = key →
      lookup key (fields.map fun (key, d) => (otherEnd key, d)) = lookup key fields := by
    intro key own
    rw [lookup_map_keys, own]
  have delay := same "delay" rfl
  have attributes := same "attributes" rfl
  cases given with
  | own field gives => exact .own (delay.trans field) gives
  | latency no_field inner field gives =>
    exact .latency (delay.trans no_field) (attributes.trans inner) field gives
  | other no_field inner no_latency =>
    exact .other (delay.trans no_field) (attributes.trans inner) no_latency
  | absent no_field no_inner => exact .absent (delay.trans no_field) (attributes.trans no_inner)

theorem DescribesEdge.exchanged {names : List String} {item : Document} {e : Edge}
    (described : DescribesEdge names item e) :
    DescribesEdge names (exchanged item) ⟨e.b, e.a, e.delay⟩ := by
  cases described with
  | edge node1 refers1 node2 refers2 given =>
    refine .edge ?_ refers2 ?_ refers1 given.exchanged
    · rw [lookup_map_keys]
      exact node2
    · rw [lookup_map_keys]
      exact node1

theorem DescribesEdge.oriented {names : List String} {item : Document} {e : Edge}
    (described : DescribesEdge names item e) :
    DescribesEdge names (orientedRecord names item) e.oriented := by
  rw [orientedRecord, recordEdge_eq described]
  split
  · rename_i above
    have turned : e.oriented = ⟨e.b, e.a, e.delay⟩ := by
      rw [Edge.oriented, Edge.pair, orderedPair_comm, orderedPair_of_le (Nat.le_of_lt above)]
    rw [turned]
    exact described.exchanged
  · rename_i order
    have same : e.oriented = e := by
      rw [Edge.oriented, Edge.pair, orderedPair_of_le (Nat.le_of_not_lt order)]
    rw [same]
    exact described

theorem describes_firstRecords {names : List String} {items : List Document} {edges : List Edge}
    (each : List.Forall₂ (DescribesEdge names) items edges) :
    List.Forall₂ (DescribesEdge names) (firstRecords names items) (firstEdges edges) := by
  have described : ∀ item ∈ items, DescribesEdge names item (recordEdge names item) := by
    intro item member
    obtain ⟨e, _, own⟩ := Checked.exists_of_forall₂ each.flip member
    rw [recordEdge_eq own]
    exact own
  obtain rfl : items.map (recordEdge names) = edges := by
    rw [← List.forall₂_eq_eq_eq, List.forall₂_map_left_iff]
    exact each.imp fun _ _ own => recordEdge_eq own
  have records : (firstRecords names items).map (recordEdge names) =
      firstEdges (items.map (recordEdge names)) := by
    rw [firstRecords, List.map_mergeSort (s := fun x y : Edge => pairLe x.pair y.pair)
      fun _ _ _ _ => rfl,
      firstEdges, firstBy_map, List.map_map, List.map_map]
    congr 1
    apply List.map_congr_left
    intro item kept
    exact recordEdge_eq (described item (firstBy_subset _ _ kept)).oriented
  rw [← records, List.forall₂_map_right_iff, List.forall₂_same]
  intro record member
  obtain ⟨item, kept, rfl⟩ := List.mem_map.mp (List.mem_mergeSort.mp member)
  have own := (described item (firstBy_subset _ _ kept)).oriented
  rw [recordEdge_eq own]
  exact own

theorem HasItems.congr {fields others : List (String × Document)} {field : String}
    {items : List Document} (same : lookup field others = lookup field fields)
    (held : HasItems fields field items) : HasItems others field items := by
  cases held with
  | missing absent => exact .missing (same.trans absent)
  | null empty => exact .null (same.trans empty)
  | list found => exact .list (same.trans found)

section Normal

variable {names : List String} {fields : List (String × Document)}

theorem normalField_of_ne {field : String} (other : field ≠ "edges") (d : Document) :
    normalField names field d = d := by
  cases d with
  | list items => rw [normalField, if_neg other]
  | _ => rfl

theorem lookup_normal {field : String} (other : field ≠ "edges") :
    lookup field (fields.map fun (key, d) => (key, normalField names key d)) =
      lookup field fields := by
  rw [lookup_map_values, funext (normalField_of_ne other), Option.map_id']

theorem hasItems_edges {items : List Document} (held : HasItems fields "edges" items) :
    HasItems (fields.map fun (key, d) => (key, normalField names key d)) "edges"
      (firstRecords names items) := by
  have values := lookup_map_values (normalField names) "edges" fields
  have none : firstRecords names [] = [] := by simp [firstRecords, firstBy]
  cases held with
  | missing absent =>
    rw [absent, Option.map_none] at values
    rw [none]
    exact .missing values
  | null empty =>
    rw [empty, Option.map_some] at values
    rw [none]
    exact .null values
  | list found =>
    rw [found, Option.map_some, normalField, if_pos rfl] at values
    exact .list values

end Normal

/-- With one record for each pair, a document describes the same topology up to its edges, and is
accepted whatever several edges of a pair would mean. -/
theorem load_normalDocument {doc : Document} {t : Topology} (loaded : load .firstWins doc = .ok t)
    (policy : DuplicateEdges) :
    load policy (normalDocument (t.relays.map (·.name)) doc) =
      .ok { t with edges := firstEdges t.edges } := by
  obtain ⟨fields, names, edges, first, last, rfl, described, rfl⟩ := load_ok_iff.mp loaded
  rw [relayNames_assemble]
  refine load_ok_iff.mpr ⟨_, names, firstEdges edges, first, last, rfl, ?_, rfl⟩
  constructor
  · obtain ⟨nodes, found, declared⟩ := described.relays
    exact ⟨nodes, (lookup_normal (by decide)).trans found, declared⟩
  · exact described.some_relay
  · exact described.distinct
  · obtain ⟨items, held, each⟩ := described.links
    exact ⟨_, hasItems_edges held, describes_firstRecords each⟩
  · intro e member
    obtain ⟨f, listed, rfl⟩ := mem_firstEdges member
    exact f.oriented_ne (described.no_loop f listed)
  · exact fun _ => nodup_pairs_iff.mp (nodup_pairs_firstEdges edges)
  · obtain ⟨items, held, each⟩ := described.publishers
    exact ⟨items, held.congr (lookup_normal (by decide)), each⟩
  · obtain ⟨items, held, each⟩ := described.subscribers
    exact ⟨items, held.congr (lookup_normal (by decide)), each⟩
  · exact described.published

end Topology

end RelayMesh
