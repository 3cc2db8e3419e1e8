import RelayMesh.Proofs.Checked
import RelayMesh.Proofs.Topology.Checks

namespace RelayMesh.Topology

open Checked (bind_ok pure_ok)
open Document (lookup)

inductive NamesRelay : Document → String → Prop where
  | text {name : String} (filled : name ≠ "") : NamesRelay (.text name) name
  | field {fields : List (String × Document)} {name : String}
      (own : lookup "name" fields = some (.text name)) (filled : name ≠ "") :
      NamesRelay (.object fields) name

/-- Relays are declared by a list of names or by their number, but not by both. -/
inductive DeclaresRelays : Document → List String → Prop where
  | listed {items : List Document} {names : List String}
      (each : List.Forall₂ NamesRelay items names) : DeclaresRelays (.list items) names
  | named {fields : List (String × Document)} {items : List Document} {names : List String}
      (under : lookup "names" fields = some (.list items))
      (each : List.Forall₂ NamesRelay items names) : DeclaresRelays (.object fields) names
  | counted {fields : List (String × Document)} {n : Nat}
      (unnamed : lookup "names" fields = none) (number : lookup "number" fields = some (.int n))
      (positive : 1 ≤ n) (bound : n ≤ 65536) : DeclaresRelays (.object fields) (numberedNames n)

/-- A value refers to a relay by its number, which counts from one, or by its name. A text that is
no name may also hold a number. -/
inductive RefersTo (names : List String) : Document → NodeId → Prop where
  | number {i : Nat} (inside : i < names.length) : RefersTo names (.int (i + 1 : Nat)) i
  | name {s : String} (known : s ∈ names) : RefersTo names (.text s) (names.idxOf s)
  | numeral {s : String} {i : Nat} (unnamed : s ∉ names)
      (reads : Text.unsigned? UInt64.size s = some (i + 1)) (inside : i < names.length) :
      RefersTo names (.text s) i

/-- A value stands for a delay, which is finite and not below zero, or for none. -/
inductive GivesDelay : Document → Option Binary64 → Prop where
  | nothing : GivesDelay .null none
  | delay {d : Document} {x : Binary64} (reads : delayValue? d = some x)
      (finite : x.isFinite = true) (positive : Binary64.zero.le x = true) : GivesDelay d (some x)

/-- An edge has the delay in its own field; without this field, the latency in its attributes. -/
inductive EdgeDelay (fields : List (String × Document)) : Option Binary64 → Prop where
  | own {d : Document} {x : Option Binary64} (field : lookup "delay" fields = some d)
      (gives : GivesDelay d x) : EdgeDelay fields x
  | latency {attributes : List (String × Document)} {d : Document} {x : Option Binary64}
      (no_field : lookup "delay" fields = none)
      (inner : lookup "attributes" fields = some (.object attributes))
      (field : lookup "latency" attributes = some d) (gives : GivesDelay d x) : EdgeDelay fields x
  | other {attributes : List (String × Document)} (no_field : lookup "delay" fields = none)
      (inner : lookup "attributes" fields = some (.object attributes))
      (no_latency : lookup "latency" attributes = none) : EdgeDelay fields none
  | absent (no_field : lookup "delay" fields = none)
      (no_inner : lookup "attributes" fields = none) : EdgeDelay fields none

/-- An entry describes an edge: both ends are relays, and the delay is one. -/
inductive DescribesEdge (names : List String) : Document → Edge → Prop where
  | edge {fields : List (String × Document)} {first second : Document} {e : Edge}
      (node1 : lookup "node1" fields = some first) (refers1 : RefersTo names first e.a)
      (node2 : lookup "node2" fields = some second) (refers2 : RefersTo names second e.b)
      (delay : EdgeDelay fields e.delay) : DescribesEdge names (.object fields) e

inductive DescribesHop (names : List String) : Document → String × NodeId → Prop where
  | relay {fields : List (String × Document)} {track : String} {d : Document} {id : NodeId}
      (named : lookup "track" fields = some (.text track)) (filled : track ≠ "")
      (field : lookup "relay" fields = some d) (refers : RefersTo names d id) :
      DescribesHop names (.object fields) (track, id)
  | node {fields : List (String × Document)} {track : String} {d : Document} {id : NodeId}
      (named : lookup "track" fields = some (.text track)) (filled : track ≠ "")
      (no_relay : lookup "relay" fields = none) (field : lookup "node" fields = some d)
      (refers : RefersTo names d id) : DescribesHop names (.object fields) (track, id)

/-- A field holds a list of items. It may be missing or null, and then there are none. -/
inductive HasItems (fields : List (String × Document)) (field : String) : List Document → Prop where
  | missing (absent : lookup field fields = none) : HasItems fields field []
  | null (empty : lookup field fields = some .null) : HasItems fields field []
  | list {items : List Document} (found : lookup field fields = some (.list items)) :
      HasItems fields field items

theorem nonEmptyText?_eq_some {d : Document} {s : String} :
    nonEmptyText? d = some s ↔ d = .text s ∧ s ≠ "" := by
  cases d with
  | text t =>
    by_cases empty : t = ""
    · simp only [nonEmptyText?, if_pos empty, Document.text.injEq]
      grind
    · simp only [nonEmptyText?, if_neg empty, Option.some.injEq, Document.text.injEq]
      grind
  | _ => simp [nonEmptyText?]

theorem relayName_ok {path : String} {d : Document} {s : String} :
    relayName path d = .ok s ↔ NamesRelay d s := by
  constructor
  · intro read
    unfold relayName at read
    split at read
    · rename_i own
      cases read
      obtain ⟨rfl, filled⟩ := nonEmptyText?_eq_some.mp own
      exact .text filled
    · split at read
      · split at read
        · contradiction
        · rename_i value found
          split at read
          · rename_i own
            cases read
            obtain ⟨rfl, filled⟩ := nonEmptyText?_eq_some.mp own
            exact .field found filled
          · contradiction
      · contradiction
  · intro names
    cases names with
    | text filled => simp only [relayName, nonEmptyText?_eq_some.mpr ⟨rfl, filled⟩]
    | field own filled =>
      simp only [relayName, nonEmptyText?, own, if_neg filled]

theorem relayNameList_ok {field : String} {d : Document} {names : List String} :
    relayNameList field d = .ok names ↔
      ∃ items, d = .list items ∧ List.Forall₂ NamesRelay items names := by
  cases d with
  | list items =>
    rw [relayNameList, Checked.mapM_zipIdx_ok fun _ _ _ => relayName_ok]
    simp
  | _ => simp [relayNameList, invalid]

theorem countedNames_ok {d : Document} {names : List String} :
    countedNames d = .ok names ↔ ∃ n : Nat, d = .int n ∧ n ≤ 65536 ∧ names = numberedNames n := by
  constructor
  · intro read
    unfold countedNames at read
    split at read
    · rename_i i
      split at read
      · contradiction
      · rename_i positive
        split at read
        · contradiction
        · rename_i bound
          cases read
          refine ⟨i.toNat, ?_, Nat.le_of_not_lt bound, rfl⟩
          rw [Int.toNat_of_nonneg (Int.not_lt.mp positive)]
    · contradiction
  · rintro ⟨n, rfl, bound, rfl⟩
    have positive : ¬ (n : Int) < 0 := by omega
    have within : ¬ maxRelays < n := Nat.not_lt_of_le bound
    simp only [countedNames, if_neg positive, Int.toNat_natCast, if_neg within]

theorem numberedNames_ne_nil {n : Nat} : numberedNames n ≠ [] ↔ 1 ≤ n := by
  simp [numberedNames, Nat.one_le_iff_ne_zero]

theorem listedNames_ok {field : String} {d : Document} {names : List String} :
    (relayNameList field d >>= distinctNames) = .ok names ↔
      (∃ items, d = .list items ∧ List.Forall₂ NamesRelay items names) ∧ names.Nodup := by
  simp only [bind_ok, distinctNames_ok, relayNameList_ok]
  grind

theorem relayNames_ok {d : Document} {names : List String} :
    (relayNames d = .ok names ∧ names ≠ []) ↔
      DeclaresRelays d names ∧ names ≠ [] ∧ names.Nodup := by
  constructor
  · rintro ⟨read, some_relay⟩
    unfold relayNames at read
    split at read
    · split at read
      · rename_i under
        obtain ⟨⟨items, rfl, each⟩, distinct⟩ := listedNames_ok.mp read
        exact ⟨.named under each, some_relay, distinct⟩
      · rename_i unnamed
        split at read
        · rename_i number
          obtain ⟨n, rfl, bound, rfl⟩ := countedNames_ok.mp read
          have positive := numberedNames_ne_nil.mp some_relay
          exact ⟨.counted unnamed number positive bound, some_relay, nodup_numberedNames n⟩
        · contradiction
    · obtain ⟨⟨items, same, each⟩, distinct⟩ := listedNames_ok.mp read
      cases same
      exact ⟨.listed each, some_relay, distinct⟩
    · contradiction
  · rintro ⟨declared, some_relay, distinct⟩
    refine ⟨?_, some_relay⟩
    cases declared with
    | listed each => exact listedNames_ok.mpr ⟨⟨_, rfl, each⟩, distinct⟩
    | named under each =>
      simp only [relayNames, under]
      exact listedNames_ok.mpr ⟨⟨_, rfl, each⟩, distinct⟩
    | counted unnamed number positive bound =>
      simp only [relayNames, unnamed, number]
      exact countedNames_ok.mpr ⟨_, rfl, bound, rfl⟩

theorem NamesRelay.ne_empty {d : Document} {name : String} (named : NamesRelay d name) :
    name ≠ "" := by
  cases named with
  | text filled => exact filled
  | field _ filled => exact filled

theorem DeclaresRelays.ne_empty {d : Document} {names : List String}
    (declared : DeclaresRelays d names) : ∀ name ∈ names, name ≠ "" := by
  intro name member
  cases declared with
  | listed each =>
    obtain ⟨item, _, named⟩ := Checked.exists_of_forall₂ each member
    exact named.ne_empty
  | named _ each =>
    obtain ⟨item, _, named⟩ := Checked.exists_of_forall₂ each member
    exact named.ne_empty
  | counted =>
    obtain ⟨i, _, rfl⟩ := List.mem_map.mp member
    intro empty
    have text := toList_numberedName i
    rw [empty] at text
    contradiction

theorem relayNames_spec {d : Document} {names : List String} (read : relayNames d = .ok names) :
    names.Nodup ∧ ∀ name ∈ names, name ≠ "" := by
  by_cases none : names = []
  · simp [none]
  · obtain ⟨declared, _, distinct⟩ := relayNames_ok.mp ⟨read, none⟩
    exact ⟨distinct, declared.ne_empty⟩

theorem relayAt_ok {field : String} {n i : Nat} {id : NodeId} :
    relayAt field n i = .ok id ↔ i = id + 1 ∧ id < n := by
  unfold relayAt
  split
  · simp only [Except.ok.injEq]
    grind
  · simp only [reduceCtorEq, false_iff]
    grind

theorem resolveRelay_ok {field : String} {names : List String}
    {d : Document} {id : NodeId} : resolveRelay field names d = .ok id ↔ RefersTo names d id := by
  constructor
  · intro resolved
    unfold resolveRelay at resolved
    split at resolved
    · rename_i i
      split at resolved
      · rename_i positive
        obtain ⟨same, inside⟩ := relayAt_ok.mp resolved
        obtain rfl : i = (id + 1 : Nat) := by rw [← same, Int.toNat_of_nonneg positive]
        exact .number inside
      · contradiction
    · contradiction
    · rename_i s
      split at resolved
      · rename_i found
        cases resolved
        obtain ⟨inside, rfl⟩ := List.findIdx?_eq_some_iff_findIdx_eq.mp found
        exact .name (List.idxOf_lt_length_iff.mp inside)
      · rename_i unnamed
        split at resolved
        · rename_i i reads
          obtain ⟨rfl, inside⟩ := relayAt_ok.mp resolved
          exact .numeral (List.idxOf?_eq_none_iff.mp unnamed) reads inside
        · contradiction
    · contradiction
  · intro refers
    cases refers with
    | number inside =>
      have positive : 0 ≤ ((id + 1 : Nat) : Int) := Int.natCast_nonneg _
      simp only [resolveRelay, if_pos positive, Int.toNat_natCast]
      exact relayAt_ok.mpr ⟨rfl, inside⟩
    | @name s known =>
      have found : names.idxOf? s = some (names.idxOf s) :=
        List.findIdx?_eq_some_iff_findIdx_eq.mpr ⟨List.idxOf_lt_length_iff.mpr known, rfl⟩
      simp only [resolveRelay, found]
    | numeral unnamed reads inside =>
      simp only [resolveRelay, List.idxOf?_eq_none_iff.mpr unnamed, reads]
      exact relayAt_ok.mpr ⟨rfl, inside⟩

theorem RefersTo.lt {names : List String} {d : Document} {id : NodeId}
    (refers : RefersTo names d id) : id < names.length := by
  cases refers with
  | number inside => exact inside
  | name known => exact List.idxOf_lt_length_iff.mpr known
  | numeral _ _ inside => exact inside

theorem delay_ok {field : String} {d : Document} {x : Option Binary64} :
    delay field d = .ok x ↔ GivesDelay d x := by
  constructor
  · intro read
    unfold delay at read
    split at read
    · cases read
      exact .nothing
    · split at read
      · rename_i found
        cases read
        obtain ⟨reads, valid⟩ := Option.filter_eq_some_iff.mp found
        obtain ⟨finite, positive⟩ := isDelay_iff.mp valid
        exact .delay reads finite positive
      · contradiction
  · intro gives
    cases gives with
    | nothing => simp only [delay]
    | @delay _ x reads finite positive =>
      have found : (delayValue? d).filter isDelay = some x :=
        Option.filter_eq_some_iff.mpr ⟨reads, isDelay_iff.mpr ⟨finite, positive⟩⟩
      unfold delay
      split
      · cases reads
      · rw [found]

theorem GivesDelay.isDelay {d : Document} {x : Binary64} (gives : GivesDelay d (some x)) :
    isDelay x = true := by
  cases gives with
  | delay _ finite positive => exact isDelay_iff.mpr ⟨finite, positive⟩

theorem edgeDelay_ok {path : String} {fields : List (String × Document)} {x : Option Binary64} :
    edgeDelay path fields = .ok x ↔ EdgeDelay fields x := by
  constructor
  · intro read
    unfold edgeDelay at read
    split at read
    · rename_i field
      exact .own field (delay_ok.mp read)
    · rename_i no_field
      split at read
      · rename_i no_inner
        cases read
        exact .absent no_field no_inner
      · rename_i inner
        split at read
        · rename_i field
          exact .latency no_field inner field (delay_ok.mp read)
        · rename_i no_latency
          cases read
          exact .other no_field inner no_latency
      · contradiction
  · intro given
    cases given with
    | own field gives =>
      simp only [edgeDelay, field]
      exact delay_ok.mpr gives
    | latency no_field inner field gives =>
      simp only [edgeDelay, no_field, inner, field]
      exact delay_ok.mpr gives
    | other no_field inner no_latency => simp only [edgeDelay, no_field, inner, no_latency]
    | absent no_field no_inner => simp only [edgeDelay, no_field, no_inner]

theorem EdgeDelay.isDelay {fields : List (String × Document)} {x : Binary64}
    (given : EdgeDelay fields (some x)) : isDelay x = true := by
  cases given with
  | own _ gives => exact gives.isDelay
  | latency _ _ _ gives => exact gives.isDelay

theorem endpoint_ok {path : String} {names : List String}
    {fields : List (String × Document)} {key : String} {id : NodeId} :
    endpoint path names fields key = .ok id ↔
      ∃ d, lookup key fields = some d ∧ RefersTo names d id := by
  unfold endpoint
  split
  · rename_i d found
    simp [found, resolveRelay_ok]
  · rename_i none_found
    simp [none_found]

theorem edge_ok {names : List String} {i : Nat} {d : Document} {e : Edge} :
    edge names i d = .ok e ↔ DescribesEdge names d e := by
  cases d with
  | object fields =>
    simp only [edge, bind_ok, pure_ok, endpoint_ok, edgeDelay_ok]
    constructor
    · rintro ⟨a, ⟨first, node1, refers1⟩, b, ⟨second, node2, refers2⟩, x, given, rfl⟩
      exact .edge node1 refers1 node2 refers2 given
    · intro described
      cases described with
      | edge node1 refers1 node2 refers2 given =>
        exact ⟨e.a, ⟨_, node1, refers1⟩, e.b, ⟨_, node2, refers2⟩, e.delay, given, rfl⟩
  | _ =>
    simp only [edge, invalid, reduceCtorEq, false_iff]
    intro described
    cases described

theorem DescribesEdge.lt {names : List String} {d : Document} {e : Edge}
    (described : DescribesEdge names d e) : e.a < names.length ∧ e.b < names.length := by
  cases described with
  | edge _ refers1 _ refers2 _ => exact ⟨refers1.lt, refers2.lt⟩

theorem DescribesEdge.isDelay {names : List String} {d : Document} {e : Edge}
    (described : DescribesEdge names d e) {x : Binary64} (own : e.delay = some x) :
    isDelay x = true := by
  cases described with
  | edge _ _ _ _ given =>
    rw [own] at given
    exact given.isDelay

theorem optionalList_ok {field : String} {fields : List (String × Document)}
    {items : List Document} :
    optionalList field fields = .ok items ↔ HasItems fields field items := by
  constructor
  · intro read
    unfold optionalList at read
    split at read
    · rename_i absent
      cases read
      exact .missing absent
    · rename_i empty
      cases read
      exact .null empty
    · rename_i found
      cases read
      exact .list found
    · contradiction
  · intro held
    cases held with
    | missing absent => simp only [optionalList, absent]
    | null empty => simp only [optionalList, empty]
    | list found => simp only [optionalList, found]

theorem edgeList_ok {policy : DuplicateEdges} {names : List String}
    {fields : List (String × Document)} {edges : List Edge} :
    edgeList policy names fields = .ok edges ↔
      (∃ items, HasItems fields "edges" items ∧ List.Forall₂ (DescribesEdge names) items edges) ∧
      (∀ e ∈ edges, e.a ≠ e.b) ∧
      (policy = .reject → (edges.map fun e => s(e.a, e.b)).Nodup) := by
  simp only [edgeList, bind_ok, pure_ok, optionalList_ok]
  constructor
  · rintro ⟨items, held, list, read, _, loops, _, duplicates, rfl⟩
    have described := (Checked.mapM_zipIdx_ok fun _ _ _ => edge_ok).mp read
    exact ⟨⟨items, held, described⟩, checkLoops_ok.mp loops, checkDuplicates_ok.mp duplicates⟩
  · rintro ⟨⟨items, held, described⟩, no_loop, single⟩
    refine ⟨items, held, edges, ?_, (), checkLoops_ok.mpr no_loop, (), ?_, rfl⟩
    · exact (Checked.mapM_zipIdx_ok fun _ _ _ => edge_ok).mpr described
    · exact checkDuplicates_ok.mpr single

theorem edgeList_spec {policy : DuplicateEdges} {names : List String}
    {fields : List (String × Document)} {edges : List Edge}
    (read : edgeList policy names fields = .ok edges) {e : Edge} (member : e ∈ edges) :
    e.a < names.length ∧ e.b < names.length ∧ e.a ≠ e.b := by
  obtain ⟨⟨items, _, each⟩, no_loop, _⟩ := edgeList_ok.mp read
  obtain ⟨item, _, described⟩ := Checked.exists_of_forall₂ each member
  exact ⟨described.lt.1, described.lt.2, no_loop e member⟩

theorem edgeList_delay {policy : DuplicateEdges} {names : List String}
    {fields : List (String × Document)} {edges : List Edge}
    (read : edgeList policy names fields = .ok edges) {e : Edge} (member : e ∈ edges)
    {x : Binary64} (own : e.delay = some x) : isDelay x = true := by
  obtain ⟨⟨items, _, each⟩, _⟩ := edgeList_ok.mp read
  obtain ⟨item, _, described⟩ := Checked.exists_of_forall₂ each member
  exact described.isDelay own

theorem hopTrack_ok {path : String} {fields : List (String × Document)} {track : String} :
    hopTrack path fields = .ok track ↔ lookup "track" fields = some (.text track) ∧ track ≠ "" := by
  constructor
  · intro read
    unfold hopTrack at read
    split at read
    · contradiction
    · rename_i d found
      split at read
      · rename_i own
        cases read
        obtain ⟨rfl, filled⟩ := nonEmptyText?_eq_some.mp own
        exact ⟨found, filled⟩
      · contradiction
  · rintro ⟨found, filled⟩
    simp only [hopTrack, found, nonEmptyText?_eq_some.mpr ⟨rfl, filled⟩]

theorem hop_ok {path : String} {names : List String} {d : Document}
    {entry : String × NodeId} : hop path names d = .ok entry ↔ DescribesHop names d entry := by
  cases d with
  | object fields =>
    simp only [hop, bind_ok, pure_ok, hopTrack_ok]
    constructor
    · rintro ⟨track, ⟨named, filled⟩, relay, resolved, rfl⟩
      unfold hopRelay at resolved
      split at resolved
      · rename_i _ field
        exact .relay named filled field (resolveRelay_ok.mp resolved)
      · rename_i no_relay field
        exact .node named filled no_relay field (resolveRelay_ok.mp resolved)
      · contradiction
    · intro described
      cases described with
      | relay named filled field refers =>
        refine ⟨_, ⟨named, filled⟩, _, ?_, rfl⟩
        simp only [hopRelay, field]
        exact resolveRelay_ok.mpr refers
      | node named filled no_relay field refers =>
        refine ⟨_, ⟨named, filled⟩, _, ?_, rfl⟩
        simp only [hopRelay, no_relay, field]
        exact resolveRelay_ok.mpr refers
  | _ =>
    simp only [hop, invalid, reduceCtorEq, false_iff]
    intro described
    cases described

theorem hops_ok {names : List String} {fields : List (String × Document)}
    {role : HopRole} {entries : List (String × NodeId)} :
    hops names fields role = .ok entries ↔ ∃ items, HasItems fields (hopField role) items ∧
      List.Forall₂ (DescribesHop names) items entries := by
  simp only [hops, bind_ok, optionalList_ok]
  apply exists_congr
  intro items
  exact and_congr_right fun _ => Checked.mapM_zipIdx_ok fun _ _ _ => hop_ok

theorem DescribesHop.lt {names : List String} {d : Document} {entry : String × NodeId}
    (described : DescribesHop names d entry) : entry.2 < names.length := by
  cases described with
  | relay _ _ _ refers => exact refers.lt
  | node _ _ _ _ refers => exact refers.lt

theorem hops_lt {names : List String} {fields : List (String × Document)} {role : HopRole}
    {entries : List (String × NodeId)} (read : hops names fields role = .ok entries)
    {entry : String × NodeId} (member : entry ∈ entries) : entry.2 < names.length := by
  obtain ⟨items, _, each⟩ := hops_ok.mp read
  obtain ⟨item, _, described⟩ := Checked.exists_of_forall₂ each member
  exact described.lt

end RelayMesh.Topology
