import Mathlib.Logic.Relation
import RelayMesh.Proofs.Text.Natural
import RelayMesh.Proofs.Topology.Acceptance
import RelayMesh.Proofs.Topology.Kinds

/-!
Documents that say the same in other words. Records are compared by the fields that are looked up,
so what else they contain, and in which order, is left open. Whatever a part of a document stands
for, its other spellings stand for it too.
-/

namespace RelayMesh.Topology

open Document (lookup)

/-! ### References -/

/-- The number of a relay and a text for it: its name, or the number in decimal where no relay has
such a name. Integers of a document have 64 bits. -/
inductive Spells (names : List String) : Document → Document → Prop where
  | name {i : Nat} {s : String} (own : names[i]? = some s) :
      Spells names (.int (i + 1 : Nat)) (.text s)
  | numeral {i : Nat} (unnamed : toString (i + 1) ∉ names) (small : i + 1 < 2 ^ 64) :
      Spells names (.int (i + 1 : Nat)) (.text (toString (i + 1)))

abbrev SameReference (names : List String) : Document → Document → Prop :=
  Relation.EqvGen (Spells names)

section References

variable {names : List String} {id : NodeId}

theorem refersTo_number_iff {i : Nat} :
    RefersTo names (.int (i + 1 : Nat)) id ↔ i = id ∧ id < names.length := by
  constructor
  · intro refers
    generalize number : Document.int (i + 1 : Nat) = d at refers
    cases refers with
    | number inside =>
      have same := Document.int.inj number
      exact ⟨by omega, inside⟩
    | name => contradiction
    | numeral => contradiction
  · rintro ⟨rfl, inside⟩
    exact .number inside

theorem refersTo_name_iff {s : String} (known : s ∈ names) :
    RefersTo names (.text s) id ↔ names.idxOf s = id := by
  constructor
  · intro refers
    cases refers with
    | name => rfl
    | numeral unnamed => exact absurd known unnamed
  · rintro rfl
    exact .name known

theorem refersTo_numeral_iff {s : String} {i : Nat} (unnamed : s ∉ names)
    (reads : Text.unsigned? UInt64.size s = some (i + 1)) :
    RefersTo names (.text s) id ↔ i = id ∧ id < names.length := by
  constructor
  · intro refers
    cases refers with
    | name known => exact absurd known unnamed
    | numeral _ other inside =>
      have same := Option.some.inj (reads.symm.trans other)
      exact ⟨Nat.succ.inj same, inside⟩
  · rintro ⟨rfl, inside⟩
    exact .numeral unnamed reads inside

theorem Spells.refersTo_iff (distinct : names.Nodup) {d e : Document} (spells : Spells names d e) :
    RefersTo names d id ↔ RefersTo names e id := by
  cases spells with
  | @name i s own =>
    obtain ⟨inside, rfl⟩ := List.getElem?_eq_some_iff.mp own
    rw [refersTo_number_iff, refersTo_name_iff (List.getElem_mem inside),
      distinct.idxOf_getElem i inside]
    exact and_iff_left_of_imp fun same => same ▸ inside
  | numeral unnamed small =>
    rw [refersTo_number_iff, refersTo_numeral_iff unnamed (Text.unsigned?_toString small)]

theorem SameReference.refersTo_iff (distinct : names.Nodup) {d e : Document}
    (same : SameReference names d e) : RefersTo names d id ↔ RefersTo names e id := by
  induction same with
  | rel d e spells => exact spells.refersTo_iff distinct
  | refl d => exact Iff.rfl
  | symm d e _ ih => exact ih.symm
  | trans d e f _ _ first second => exact first.trans second

theorem refersTo_of_rel (distinct : names.Nodup) {before after : Option Document}
    (same : Option.Rel (SameReference names) before after) {d : Document} (found : before = some d)
    (refers : RefersTo names d id) : ∃ e, after = some e ∧ RefersTo names e id := by
  cases same with
  | none => contradiction
  | some same =>
    cases found
    exact ⟨_, rfl, (same.refersTo_iff distinct).mp refers⟩

end References

/-! ### Relays -/

inductive SameName : Document → Document → Prop where
  | kept (d : Document) : SameName d d
  | wrapped {fields : List (String × Document)} {s : String}
      (own : lookup "name" fields = some (.text s)) : SameName (.text s) (.object fields)
  | bare {fields : List (String × Document)} {s : String}
      (own : lookup "name" fields = some (.text s)) : SameName (.object fields) (.text s)

/-- The number of relays stands for the list of the names `r1`, `r2` and so on, and a list of names
may also stand in a record. -/
inductive SameRelays : Document → Document → Prop where
  | kept (d : Document) : SameRelays d d
  | counted {fields : List (String × Document)} {n : Nat}
      (unnamed : lookup "names" fields = none) (number : lookup "number" fields = some (.int n)) :
      SameRelays (.object fields) (.list ((numberedNames n).map .text))
  | wrapped {fields : List (String × Document)} {items : List Document}
      (under : lookup "names" fields = some (.list items)) :
      SameRelays (.list items) (.object fields)
  | bare {fields : List (String × Document)} {items : List Document}
      (under : lookup "names" fields = some (.list items)) :
      SameRelays (.object fields) (.list items)
  | entries {items others : List Document} (each : List.Forall₂ SameName items others) :
      SameRelays (.list items) (.list others)
  | trans {d e f : Document} (first : SameRelays d e) (second : SameRelays e f) : SameRelays d f

theorem SameName.names {d e : Document} (same : SameName d e) {name : String}
    (named : NamesRelay d name) : NamesRelay e name := by
  cases same with
  | kept => exact named
  | wrapped own =>
    cases named with
    | text filled => exact .field own filled
  | bare own =>
    cases named with
    | field other filled =>
      cases own.symm.trans other
      exact .text filled

theorem namesRelay_text {names : List String} (filled : ∀ name ∈ names, name ≠ "") :
    List.Forall₂ NamesRelay (names.map .text) names := by
  rw [List.forall₂_map_left_iff, List.forall₂_same]
  exact fun name member => .text (filled name member)

theorem SameRelays.declares {d e : Document} (same : SameRelays d e) {names : List String}
    (declared : DeclaresRelays d names) : DeclaresRelays e names := by
  induction same with
  | kept => exact declared
  | counted unnamed number =>
    have filled := declared.ne_empty
    cases declared with
    | named under => exact absurd (under.symm.trans unnamed) (Option.some_ne_none _)
    | counted _ other =>
      cases number.symm.trans other
      exact .listed (namesRelay_text filled)
  | wrapped under =>
    cases declared with
    | listed each => exact .named under each
  | bare under =>
    cases declared with
    | named other each =>
      cases under.symm.trans other
      exact .listed each
    | counted unnamed => exact absurd (under.symm.trans unnamed) (Option.some_ne_none _)
  | entries each =>
    cases declared with
    | listed named =>
      exact .listed (Checked.forall₂_carry (fun _ _ _ same => same.names) each named)
  | trans _ _ first second => exact second (first declared)

/-! ### Edges -/

/-- The delay of one record is the latency among the attributes of the other. -/
structure MovesDelay (fields others : List (String × Document)) : Prop where
  no_inner : lookup "attributes" fields = none
  no_field : lookup "delay" others = none
  moved : ∃ d attributes, lookup "delay" fields = some d ∧
    lookup "attributes" others = some (.object attributes) ∧ lookup "latency" attributes = some d

inductive SameDelay (fields others : List (String × Document)) : Prop where
  | kept (own : lookup "delay" fields = lookup "delay" others)
      (inner : lookup "attributes" fields = lookup "attributes" others)
  | inward (moves : MovesDelay fields others)
  | outward (moves : MovesDelay others fields)

inductive SameEdge (names : List String) : Document → Document → Prop where
  | kept (d : Document) : SameEdge names d d
  | edge {fields others : List (String × Document)}
      (node1 : Option.Rel (SameReference names) (lookup "node1" fields) (lookup "node1" others))
      (node2 : Option.Rel (SameReference names) (lookup "node2" fields) (lookup "node2" others))
      (delay : SameDelay fields others) : SameEdge names (.object fields) (.object others)

theorem edgeDelay_own {fields : List (String × Document)} {d : Document} {x : Option Binary64}
    (field : lookup "delay" fields = some d) : EdgeDelay fields x ↔ GivesDelay d x := by
  constructor
  · intro given
    cases given <;> simp_all
  · exact .own field

theorem edgeDelay_latency {fields attributes : List (String × Document)} {d : Document}
    {x : Option Binary64} (no_field : lookup "delay" fields = none)
    (inner : lookup "attributes" fields = some (.object attributes))
    (field : lookup "latency" attributes = some d) : EdgeDelay fields x ↔ GivesDelay d x := by
  constructor
  · intro given
    cases given <;> simp_all
  · exact .latency no_field inner field

theorem MovesDelay.edgeDelay_iff {fields others : List (String × Document)}
    (moves : MovesDelay fields others) {x : Option Binary64} :
    EdgeDelay fields x ↔ EdgeDelay others x := by
  obtain ⟨d, attributes, own, inner, latency⟩ := moves.moved
  rw [edgeDelay_own own, edgeDelay_latency moves.no_field inner latency]

theorem EdgeDelay.congr {fields others : List (String × Document)} {x : Option Binary64}
    (own : lookup "delay" fields = lookup "delay" others)
    (inner : lookup "attributes" fields = lookup "attributes" others)
    (given : EdgeDelay fields x) : EdgeDelay others x := by
  cases given with
  | own field gives => exact .own (own ▸ field) gives
  | latency no_field attributes field gives =>
    exact .latency (own ▸ no_field) (inner ▸ attributes) field gives
  | other no_field attributes no_latency =>
    exact .other (own ▸ no_field) (inner ▸ attributes) no_latency
  | absent no_field no_inner => exact .absent (own ▸ no_field) (inner ▸ no_inner)

theorem SameDelay.edgeDelay {fields others : List (String × Document)}
    (same : SameDelay fields others) {x : Option Binary64} (given : EdgeDelay fields x) :
    EdgeDelay others x := by
  cases same with
  | kept own inner => exact given.congr own inner
  | inward moves => exact moves.edgeDelay_iff.mp given
  | outward moves => exact moves.edgeDelay_iff.mpr given

theorem SameEdge.describes {names : List String} (distinct : names.Nodup) {d e : Document}
    (same : SameEdge names d e) {link : Edge} (described : DescribesEdge names d link) :
    DescribesEdge names e link := by
  cases same with
  | kept => exact described
  | edge node1 node2 delay =>
    cases described with
    | edge found1 refers1 found2 refers2 given =>
      obtain ⟨first, own1, refers1⟩ := refersTo_of_rel distinct node1 found1 refers1
      obtain ⟨second, own2, refers2⟩ := refersTo_of_rel distinct node2 found2 refers2
      exact .edge own1 refers1 own2 refers2 (delay.edgeDelay given)

/-! ### Hops -/

/-- The only reference of one record stands under `relay`, that of the other under `node`. -/
structure MovesRelay (names : List String) (fields others : List (String × Document)) : Prop where
  no_node : lookup "node" fields = none
  no_relay : lookup "relay" others = none
  moved : Option.Rel (SameReference names) (lookup "relay" fields) (lookup "node" others)

inductive SameTarget (names : List String) (fields others : List (String × Document)) : Prop where
  | kept (relay : Option.Rel (SameReference names) (lookup "relay" fields) (lookup "relay" others))
      (node : Option.Rel (SameReference names) (lookup "node" fields) (lookup "node" others))
  | toNode (moves : MovesRelay names fields others)
  | toRelay (moves : MovesRelay names others fields)

inductive SameHop (names : List String) : Document → Document → Prop where
  | kept (d : Document) : SameHop names d d
  | hop {fields others : List (String × Document)}
      (track : lookup "track" fields = lookup "track" others)
      (target : SameTarget names fields others) : SameHop names (.object fields) (.object others)

/-- The reference of a hop, which counts under `node` only where there is none under `relay`. -/
def hopReference (fields : List (String × Document)) : Option Document :=
  (lookup "relay" fields).or (lookup "node" fields)

theorem describesHop_iff {names : List String} {fields : List (String × Document)}
    {entry : String × NodeId} : DescribesHop names (.object fields) entry ↔
      (lookup "track" fields = some (.text entry.1) ∧ entry.1 ≠ "") ∧
        ∃ d, hopReference fields = some d ∧ RefersTo names d entry.2 := by
  constructor
  · intro described
    cases described with
    | relay named filled field refers =>
      exact ⟨⟨named, filled⟩, _, by simp [hopReference, field], refers⟩
    | node named filled no_relay field refers =>
      exact ⟨⟨named, filled⟩, _, by simp [hopReference, no_relay, field], refers⟩
  · rintro ⟨⟨named, filled⟩, d, reference, refers⟩
    rcases Option.or_eq_some_iff.mp reference with field | ⟨no_relay, field⟩
    · exact .relay named filled field refers
    · exact .node named filled no_relay field refers

theorem MovesRelay.reference {names : List String} {fields others : List (String × Document)}
    (moves : MovesRelay names fields others) :
    Option.Rel (SameReference names) (hopReference fields) (hopReference others) := by
  simpa [hopReference, moves.no_node, moves.no_relay] using moves.moved

theorem rel_symm {names : List String} {before after : Option Document}
    (same : Option.Rel (SameReference names) before after) :
    Option.Rel (SameReference names) after before := by
  cases same with
  | none => exact .none
  | some same => exact .some (.symm _ _ same)

theorem rel_or {r : Document → Document → Prop} {x y z w : Option Document}
    (first : Option.Rel r x y) (second : Option.Rel r z w) : Option.Rel r (x.or z) (y.or w) := by
  cases first with
  | none => exact second
  | some own => exact .some own

theorem SameTarget.reference {names : List String} {fields others : List (String × Document)}
    (same : SameTarget names fields others) :
    Option.Rel (SameReference names) (hopReference fields) (hopReference others) := by
  cases same with
  | kept relay node =>
    exact rel_or relay node
  | toNode moves => exact moves.reference
  | toRelay moves => exact rel_symm moves.reference

theorem SameHop.describes {names : List String} (distinct : names.Nodup) {d e : Document}
    (same : SameHop names d e) {entry : String × NodeId} (described : DescribesHop names d entry) :
    DescribesHop names e entry := by
  cases same with
  | kept => exact described
  | hop track target =>
    obtain ⟨⟨named, filled⟩, d, found, refers⟩ := describesHop_iff.mp described
    have after := refersTo_of_rel distinct target.reference found refers
    exact describesHop_iff.mpr ⟨⟨track ▸ named, filled⟩, after⟩

/-! ### Documents -/

/-- Two documents have lists of items with the same meaning under a field. A list without items may
as well be null or missing. -/
def SameItems (same : Document → Document → Prop) (fields others : List (String × Document))
    (field : String) : Prop :=
  ∃ items copies, HasItems fields field items ∧ HasItems others field copies ∧
    List.Forall₂ same items copies

theorem HasItems.unique {fields : List (String × Document)} {field : String}
    {items others : List Document} (held : HasItems fields field items)
    (again : HasItems fields field others) : items = others := by
  cases held <;> cases again <;> simp_all

theorem SameItems.held {α : Type} {same : Document → Document → Prop}
    {describes : Document → α → Prop} (keeps : ∀ d e a, same d e → describes d a → describes e a)
    {fields others : List (String × Document)} {field : String} {parts : List α}
    (alike : SameItems same fields others field)
    (held : ∃ items, HasItems fields field items ∧ List.Forall₂ describes items parts) :
    ∃ items, HasItems others field items ∧ List.Forall₂ describes items parts := by
  obtain ⟨items, copies, before, after, related⟩ := alike
  obtain ⟨found, again, each⟩ := held
  obtain rfl := before.unique again
  exact ⟨copies, after, Checked.forall₂_carry keeps related each⟩

/-- The second document says the same as the first, in which the relays have the given names. -/
structure Respelled (names : List String) (fields others : List (String × Document)) : Prop where
  relays : Option.Rel SameRelays (lookup "nodes" fields) (lookup "nodes" others)
  links : SameItems (SameEdge names) fields others "edges"
  publishers : SameItems (SameHop names) fields others "first_hop_relay"
  subscribers : SameItems (SameHop names) fields others "last_hop_relay"

theorem Respelled.describes {policy : DuplicateEdges} {names : List String}
    {fields others : List (String × Document)} (same : Respelled names fields others)
    {edges : List Edge} {first last : List (String × NodeId)}
    (described : Describes policy fields names edges first last) :
    Describes policy others names edges first last := by
  have distinct := described.distinct
  have hop : ∀ d e entry, SameHop names d e → DescribesHop names d entry →
      DescribesHop names e entry := fun _ _ _ same => same.describes distinct
  exact { described with
    relays := by
      obtain ⟨nodes, found, declared⟩ := described.relays
      have relays := same.relays
      rw [found] at relays
      generalize own : lookup "nodes" others = after at relays
      cases relays with
      | some relays => exact ⟨_, rfl, relays.declares declared⟩
    links := same.links.held (fun _ _ _ same => same.describes distinct) described.links
    publishers := same.publishers.held hop described.publishers
    subscribers := same.subscribers.held hop described.subscribers }

/-- However a document is spelled, it loads to the same topology. -/
theorem load_respelled {policy : DuplicateEdges} {fields others : List (String × Document)}
    {t : Topology} (loaded : load policy (.object fields) = .ok t)
    (same : Respelled (t.relays.map (·.name)) fields others) :
    load policy (.object others) = .ok t := by
  obtain ⟨_, names, edges, first, last, own, described, rfl⟩ := load_ok_iff.mp loaded
  cases own
  rw [relayNames_assemble] at same
  exact load_ok_iff.mpr ⟨_, names, edges, first, last, rfl, same.describes described, rfl⟩

def briefFields : List (String × Document) :=
  [("nodes", .object [("number", .int 3)]),
    ("edges", .list [.object [("node1", .int 1), ("node2", .int 2), ("delay", .text "5ms")],
      .object [("node1", .text "r2"), ("node2", .int 3)]]),
    ("first_hop_relay", .list [.object [("track", .text "v"), ("relay", .int 1)]])]

def verboseFields : List (String × Document) :=
  [("nodes", .object [("names", .list [.text "r1", .object [("name", .text "r2")], .text "r3"])]),
    ("edges", .list [.object [("node1", .text "r1"), ("node2", .text "2"),
        ("attributes", .object [("latency", .text "5ms")])],
      .object [("node1", .int 2), ("node2", .int 3)]]),
    ("first_hop_relay", .list [.object [("track", .text "v"), ("node", .text "1")]]),
    ("last_hop_relay", .null)]

def row : Topology where
  nodes := [⟨0, "r1", .relay⟩, ⟨1, "r2", .relay⟩, ⟨2, "r3", .relay⟩, ⟨3, "pub1", .publisher⟩,
    ⟨4, "api", .control⟩]
  numRelays := 3
  edges := [⟨0, 1, some (.ofInt 5)⟩, ⟨1, 2, none⟩]
  attachments := [⟨"v", 0, .firstHop, 3⟩]
  control := 4

theorem respelled_row : Respelled (row.relays.map (·.name)) briefFields verboseFields where
  relays := by
    have three : (numberedNames 3).map Document.text = [.text "r1", .text "r2", .text "r3"] := rfl
    refine .some (.trans (.counted rfl rfl) (.trans (.entries ?_) (.wrapped rfl)))
    rw [three]
    exact .cons (.kept _) (.cons (.wrapped rfl) (.cons (.kept _) .nil))
  links := by
    have first : Spells (row.relays.map (·.name)) (.int 1) (.text "r1") := .name rfl
    have second : Spells (row.relays.map (·.name)) (.int 2) (.text "r2") := .name rfl
    have numeral : Spells (row.relays.map (·.name)) (.int 2) (.text "2") :=
      .numeral (by decide) (by decide)
    refine ⟨_, _, .list rfl, .list rfl, .cons (.edge ?_ ?_ ?_) (.cons (.edge ?_ ?_ ?_) .nil)⟩
    · exact .some (.rel _ _ first)
    · exact .some (.rel _ _ numeral)
    · exact .inward ⟨rfl, rfl, _, _, rfl, rfl, rfl⟩
    · exact .some (.symm _ _ (.rel _ _ second))
    · exact .some (.refl _)
    · exact .kept rfl rfl
  publishers := by
    have numeral : Spells (row.relays.map (·.name)) (.int 1) (.text "1") :=
      .numeral (by decide) (by decide)
    refine ⟨_, _, .list rfl, .list rfl, .cons (.hop rfl (.toNode ⟨rfl, rfl, ?_⟩)) .nil⟩
    exact .some (.rel _ _ numeral)
  subscribers := ⟨[], [], .missing rfl, .null rfl, .nil⟩

theorem load_row : load .reject (.object briefFields) = .ok row ∧
    Respelled (row.relays.map (·.name)) briefFields verboseFields ∧
    load .reject (.object verboseFields) = .ok row := by
  have loaded : load .reject (.object briefFields) = .ok row := by decide +kernel
  exact ⟨loaded, respelled_row, load_respelled loaded respelled_row⟩

end RelayMesh.Topology
