import RelayMesh.Proofs.Delay.Overrides

/-! Where the delay of a link comes from. As long as no two overrides name the same relays in
different orders, the direction in which they are written does not matter: the last override for the
two relays comes first, then the first edge between them, then the default. -/

namespace RelayMesh

def Topology.firstEdge? (t : Topology) (x y : NodeId) : Option Edge :=
  t.edges.find? fun e => e.connects x y

namespace Configuration

def lastOverride? (c : Configuration) (t : Topology) (x y : NodeId) : Option DelayOverride :=
  c.delayOverrides.findRev? (·.connects t x y)

inductive SetsDelay (c : Configuration) (t : Topology) (x y : NodeId) : Binary64 → Prop where
  | override {o : DelayOverride} (last : c.lastOverride? t x y = some o) : c.SetsDelay t x y o.delay
  | edge {e : Edge} {delay : Binary64} (free : c.lastOverride? t x y = none)
      (first : t.firstEdge? x y = some e) (own : e.delay = some delay) : c.SetsDelay t x y delay
  | hidden {e : Edge} {delay : Binary64} (free : c.lastOverride? t x y = none)
      (first : t.firstEdge? x y = some e) (unset : e.delay = none)
      (given : c.defaultDelay = some delay) : c.SetsDelay t x y delay
  | undeclared {delay : Binary64} (free : c.lastOverride? t x y = none)
      (none : t.firstEdge? x y = none) (given : c.defaultDelay = some delay) :
      c.SetsDelay t x y delay

def OneWay (c : Configuration) : Prop :=
  ∀ o ∈ c.delayOverrides, ∀ p ∈ c.delayOverrides, o.a = p.b → o.b = p.a → o.a = o.b

instance (c : Configuration) : Decidable c.OneWay :=
  inferInstanceAs (Decidable (∀ o ∈ c.delayOverrides, ∀ p ∈ c.delayOverrides, _ → _ → _))

/-- The table has exactly the links that have a delay, in ascending order. A first edge without a
delay hides the later ones of its pair, but not the default. -/
structure Shapes (c : Configuration) (t : Topology) (links : List (NodeId × NodeId))
    (table : List LinkShaping) : Prop where
  ascending : table.Pairwise fun r s => Precedes (r.a, r.b) (s.a, s.b)
  linked : ∀ s ∈ table, (s.a, s.b) ∈ links
  delayed : ∀ link ∈ links, ∀ delay,
    ⟨link.1, link.2, delay⟩ ∈ table ↔ c.SetsDelay t link.1 link.2 delay
  hidden : ∀ link ∈ links, c.lastOverride? t link.1 link.2 = none →
    ∀ e, t.firstEdge? link.1 link.2 = some e → e.delay = none →
      ∀ delay, ⟨link.1, link.2, delay⟩ ∈ table ↔ c.defaultDelay = some delay

variable {c : Configuration} {t : Topology}

theorem setsDelay_iff {x y : NodeId} {delay : Binary64} : c.SetsDelay t x y delay ↔
    ((c.lastOverride? t x y).map (·.delay)).or ((t.delayFor x y).or c.defaultDelay) =
      some delay := by
  have edges : t.delayFor x y = (t.firstEdge? x y).bind (·.delay) := rfl
  rw [edges]
  constructor
  · intro sets
    cases sets with
    | override last => simp [last]
    | edge free first own => simp [free, first, own]
    | hidden free first unset given => simp [free, first, unset, given]
    | undeclared free none given => simp [free, none, given]
  · intro found
    cases last : c.lastOverride? t x y with
    | some o =>
      simp only [last, Option.map_some, Option.some_or, Option.some.injEq] at found
      exact found ▸ .override last
    | none =>
      simp only [last, Option.map_none, Option.none_or] at found
      cases first : t.firstEdge? x y with
      | none =>
        simp only [first, Option.bind_none, Option.none_or] at found
        exact .undeclared last first found
      | some e =>
        cases own : e.delay with
        | none =>
          simp only [first, Option.bind_some, own, Option.none_or] at found
          exact .hidden last first own found
        | some x =>
          simp only [first, Option.bind_some, own, Option.some_or] at found
          exact .edge last first (own.trans found)

section Loaded

variable {policy : DuplicateEdges} {doc : Document} (loaded : Topology.load policy doc = .ok t)
  (declared : ∀ o ∈ c.delayOverrides, t.HasRelay o.a ∧ t.HasRelay o.b) (oneWay : c.OneWay)
include loaded declared oneWay

theorem ruling?_eq_lastOverride? (x y : NodeId) : c.ruling? t x y = c.lastOverride? t x y := by
  by_cases named : ∃ o ∈ c.delayOverrides, o.names t x y = true
  · obtain ⟨o, member, names⟩ := named
    rw [ruling?_of_names member names, lastOverride?]
    apply findRev?_congr
    intro p listed
    rw [DelayOverride.connects, Bool.eq_iff_iff, Bool.or_eq_true, iff_self_or]
    intro turned
    have ends := (Delays.names_iff loaded (declared o member)).mp names
    have others := (Delays.names_iff loaded (declared p listed)).mp turned
    rw [Delays.names_iff loaded (declared p listed)]
    have same := oneWay o member p listed
    grind
  · have unnamed : ∀ o ∈ c.delayOverrides, o.names t x y = false := by
      simpa using named
    rw [ruling?_of_not_names unnamed, lastOverride?]
    apply findRev?_congr
    intro o member
    rw [DelayOverride.connects, unnamed o member, Bool.false_or]

theorem shaping_precedence (links : List (NodeId × NodeId)) :
    ∃ table, c.shaping t links = .ok table ∧ c.Shapes t links table := by
  obtain ⟨table, shaped, ascending, entries⟩ := shaping_ok loaded declared links
  have delayed : ∀ link ∈ links, ∀ delay,
      ⟨link.1, link.2, delay⟩ ∈ table ↔ c.SetsDelay t link.1 link.2 delay := by
    intro link linked delay
    rw [entries, setsDelay_iff, delayOf?, ruling?_eq_lastOverride? loaded declared oneWay]
    exact and_iff_right linked
  refine ⟨table, shaped, ascending, fun s member => ((entries s).mp member).1, delayed, ?_⟩
  intro link linked free e first unset delay
  rw [delayed link linked]
  constructor
  · intro sets
    cases sets with
    | override last => simp [free] at last
    | edge _ other own => simp_all
    | hidden _ _ _ given => exact given
    | undeclared _ none given => exact given
  · exact .hidden free first unset

end Loaded

def ladderDocument : Document :=
  let edge : Int × Int × List (String × Document) → Document := fun (x, y, more) =>
    .object (("node1", .int x) :: ("node2", .int y) :: more)
  .object [("nodes", .list [.text "a", .text "b", .text "c", .text "d"]),
    ("edges", .list ([(1, 2, [("delay", .int 2)]), (2, 3, []), (3, 2, [("delay", .int 9)]),
      (3, 4, [("delay", .int 4)])].map edge))]

def ladder : Topology where
  nodes := [⟨0, "a", .relay⟩, ⟨1, "b", .relay⟩, ⟨2, "c", .relay⟩, ⟨3, "d", .relay⟩,
    ⟨4, "api", .control⟩]
  numRelays := 4
  edges := [⟨0, 1, some ⟨0x4000000000000000⟩⟩, ⟨1, 2, none⟩, ⟨2, 1, some ⟨0x4022000000000000⟩⟩,
    ⟨2, 3, some ⟨0x4010000000000000⟩⟩]
  attachments := []
  control := 4

def ladderDelays : Configuration where
  defaultDelay := some ⟨0x3ff0000000000000⟩
  delayOverrides := [⟨"b", "a", ⟨0x4014000000000000⟩⟩, ⟨"a", "c", ⟨0x4008000000000000⟩⟩,
    ⟨"b", "a", ⟨0x401c000000000000⟩⟩]

theorem ladder_precedence : Topology.load .firstWins ladderDocument = .ok ladder ∧
    (∀ o ∈ ladderDelays.delayOverrides, ladder.HasRelay o.a ∧ ladder.HasRelay o.b) ∧
    ladderDelays.OneWay ∧
    ladderDelays.Shapes ladder [(2, 1), (0, 1), (1, 2), (0, 3), (2, 3), (0, 1)]
      [⟨0, 1, ⟨0x401c000000000000⟩⟩, ⟨0, 3, ⟨0x3ff0000000000000⟩⟩,
        ⟨1, 2, ⟨0x3ff0000000000000⟩⟩, ⟨2, 1, ⟨0x3ff0000000000000⟩⟩,
        ⟨2, 3, ⟨0x4010000000000000⟩⟩] := by
  have loaded : Topology.load .firstWins ladderDocument = .ok ladder := by decide +kernel
  have declared : ∀ o ∈ ladderDelays.delayOverrides,
      ladder.HasRelay o.a ∧ ladder.HasRelay o.b := by decide
  have oneWay : ladderDelays.OneWay := by decide
  obtain ⟨table, shaped, shapes⟩ := shaping_precedence loaded declared oneWay
    [(2, 1), (0, 1), (1, 2), (0, 3), (2, 3), (0, 1)]
  have computed : ladderDelays.shaping ladder [(2, 1), (0, 1), (1, 2), (0, 3), (2, 3), (0, 1)] =
      .ok [⟨0, 1, ⟨0x401c000000000000⟩⟩, ⟨0, 3, ⟨0x3ff0000000000000⟩⟩,
        ⟨1, 2, ⟨0x3ff0000000000000⟩⟩, ⟨2, 1, ⟨0x3ff0000000000000⟩⟩,
        ⟨2, 3, ⟨0x4010000000000000⟩⟩] := by decide +kernel
  obtain rfl := Except.ok.inj (computed.symm.trans shaped)
  exact ⟨loaded, declared, oneWay, shapes⟩

end Configuration

end RelayMesh
