import RelayMesh.Proofs.Delay.Precedence
import RelayMesh.Proofs.Topology.Loading

/-! Overrides that are turned round. Links have no direction, but of overrides in both directions
those in the direction of the link come first, whatever their place in the list. So turning some of
them may change the shaping, unless all overrides of a link agree. -/

namespace RelayMesh

namespace DelayOverride

def turned (o : DelayOverride) : DelayOverride :=
  ⟨o.b, o.a, o.delay⟩

theorem names_turned (o : DelayOverride) (t : Topology) (x y : NodeId) :
    o.turned.names t x y = o.names t y x :=
  Bool.and_comm _ _

theorem connects_turned (o : DelayOverride) (t : Topology) (x y : NodeId) :
    o.turned.connects t x y = o.connects t x y := by
  rw [connects, connects, names_turned, names_turned, Bool.or_comm]

/-- The override in the direction of the link if it has the given delay, else in the other one. -/
def facing (t : Topology) (x y : NodeId) (delay : Binary64) (o : DelayOverride) : DelayOverride :=
  if o.names t x y = decide (o.delay = delay) then o else o.turned

theorem facing_cases (t : Topology) (x y : NodeId) (delay : Binary64) (o : DelayOverride) :
    o.facing t x y delay = o ∨ o.facing t x y delay = o.turned := by
  unfold facing
  split
  · exact .inl rfl
  · exact .inr rfl

theorem connects_facing (t : Topology) (x y : NodeId) (delay : Binary64) (o : DelayOverride) :
    (o.facing t x y delay).connects t x y = o.connects t x y := by
  rcases o.facing_cases t x y delay with same | turned
  · rw [same]
  · rw [turned, connects_turned]

theorem delay_facing (t : Topology) (x y : NodeId) (delay : Binary64) (o : DelayOverride) :
    (o.facing t x y delay).delay = o.delay := by
  rcases o.facing_cases t x y delay with same | turned
  · rw [same]
  · rw [turned]
    rfl

theorem names_facing {t : Topology} {x y : NodeId} (different : x ≠ y) {o : DelayOverride}
    (connects : o.connects t x y = true) (delay : Binary64) :
    (o.facing t x y delay).names t x y = decide (o.delay = delay) := by
  have exclusive : ¬ (o.names t x y = true ∧ o.names t y x = true) := by
    simp only [names, Bool.and_eq_true, beq_iff_eq]
    grind
  rw [DelayOverride.connects, Bool.or_eq_true] at connects
  unfold facing
  split
  · rename_i facing
    exact facing
  · rw [names_turned]
    grind

end DelayOverride

def Turned (os ps : List DelayOverride) : Prop :=
  List.Forall₂ (fun o p => p = o ∨ p = o.turned) os ps

theorem Turned.symm {os ps : List DelayOverride} (turned : Turned os ps) : Turned ps os := by
  refine (List.Forall₂.flip turned).imp ?_
  rintro p o (rfl | rfl)
  · exact .inl rfl
  · exact .inr rfl

theorem Turned.facing (t : Topology) (x y : NodeId) (delay : Binary64) (os : List DelayOverride) :
    Turned os (os.map (·.facing t x y delay)) := by
  rw [Turned, List.forall₂_map_right_iff, List.forall₂_same]
  exact fun o _ => o.facing_cases t x y delay

theorem Turned.exists {os ps : List DelayOverride} (turned : Turned os ps) {p : DelayOverride}
    (member : p ∈ ps) : ∃ o ∈ os, p.delay = o.delay ∧
      ∀ t x y, p.connects t x y = o.connects t x y := by
  obtain ⟨o, listed, rfl | rfl⟩ := Checked.exists_of_forall₂ turned member
  · exact ⟨p, listed, rfl, fun _ _ _ => rfl⟩
  · exact ⟨o, listed, rfl, o.connects_turned⟩

theorem Turned.hasRelay {t : Topology} {os ps : List DelayOverride} (turned : Turned os ps)
    (declared : ∀ o ∈ os, t.HasRelay o.a ∧ t.HasRelay o.b) :
    ∀ p ∈ ps, t.HasRelay p.a ∧ t.HasRelay p.b := by
  intro p member
  obtain ⟨o, listed, rfl | rfl⟩ := Checked.exists_of_forall₂ turned member
  · exact declared p listed
  · exact (declared o listed).symm

namespace Configuration

def withOverrides (c : Configuration) (os : List DelayOverride) : Configuration :=
  { c with delayOverrides := os }

def Agrees (c : Configuration) (t : Topology) (x y : NodeId) : Prop :=
  ∀ o ∈ c.delayOverrides, ∀ p ∈ c.delayOverrides,
    o.connects t x y = true → p.connects t x y = true → o.delay = p.delay

instance (c : Configuration) (t : Topology) (x y : NodeId) : Decidable (c.Agrees t x y) :=
  inferInstanceAs (Decidable (∀ o ∈ c.delayOverrides, ∀ p ∈ c.delayOverrides, _ → _ → _))

variable {c : Configuration} {t : Topology} {x y : NodeId}

theorem delayOf?_of_agrees (agrees : c.Agrees t x y) {os : List DelayOverride}
    (turned : Turned c.delayOverrides os) :
    (c.withOverrides os).delayOf? t x y = c.delayOf? t x y := by
  have rulings : ((c.withOverrides os).ruling? t x y).map (·.delay) =
      (c.ruling? t x y).map (·.delay) := by
    cases ruling : c.ruling? t x y with
    | none =>
      have none : (c.withOverrides os).ruling? t x y = none := by
        rw [ruling?_eq_none] at ruling ⊢
        intro p member
        obtain ⟨o, listed, _, same⟩ := turned.exists member
        rw [same, ruling o listed]
      rw [none]
    | some o =>
      obtain ⟨member, connects⟩ := ruling?_spec ruling
      cases other : (c.withOverrides os).ruling? t x y with
      | none =>
        obtain ⟨p, listed, _, same⟩ := turned.symm.exists member
        rw [same, ruling?_eq_none.mp other p listed] at connects
        contradiction
      | some p =>
        obtain ⟨listed, connectsP⟩ := ruling?_spec other
        obtain ⟨q, source, delay, same⟩ := turned.exists listed
        rw [same] at connectsP
        rw [Option.map_some, Option.map_some, delay, agrees q source o member connectsP connects]
  rw [delayOf?, rulings]
  rfl

/-- Any override of a link can be made the one in force: face all with its delay to the link and all
others away from it. -/
theorem delayOf?_facing (different : x ≠ y) {o : DelayOverride} (member : o ∈ c.delayOverrides)
    (connects : o.connects t x y = true) :
    (c.withOverrides (c.delayOverrides.map (·.facing t x y o.delay))).delayOf? t x y =
      some o.delay := by
  have listed : o.facing t x y o.delay ∈
      (c.withOverrides (c.delayOverrides.map (·.facing t x y o.delay))).delayOverrides :=
    List.mem_map_of_mem member
  have names : (o.facing t x y o.delay).names t x y = true := by
    rw [DelayOverride.names_facing different connects, decide_eq_true rfl]
  have same : ∀ p ∈ c.delayOverrides.map (·.facing t x y o.delay),
      p.names t x y = true → p.delay = o.delay := by
    intro p member facing
    obtain ⟨q, source, rfl⟩ := List.mem_map.mp member
    have connects : q.connects t x y = true := by
      rw [← q.connects_facing t x y o.delay, DelayOverride.connects, facing, Bool.true_or]
    rw [DelayOverride.names_facing different connects, decide_eq_true_iff] at facing
    rw [DelayOverride.delay_facing, facing]
  obtain ⟨p, found⟩ := exists_ruling?_of_names listed names
  rw [delayOf?, found.1, Option.map_some, Option.some_or,
    same p (ruling?_spec found.1).1 found.2]

section Loaded

variable {policy : DuplicateEdges} {doc : Document} (loaded : Topology.load policy doc = .ok t)
  (declared : ∀ o ∈ c.delayOverrides, t.HasRelay o.a ∧ t.HasRelay o.b)
include loaded declared

theorem shaping_eq_iff {d : Configuration}
    (known : ∀ o ∈ d.delayOverrides, t.HasRelay o.a ∧ t.HasRelay o.b)
    (links : List (NodeId × NodeId)) : d.shaping t links = c.shaping t links ↔
      ∀ link ∈ links, d.delayOf? t link.1 link.2 = c.delayOf? t link.1 link.2 := by
  obtain ⟨delays, resolved⟩ := (Delays.resolve_ok_iff loaded).mpr declared
  obtain ⟨others, resolvedOthers⟩ := (Delays.resolve_ok_iff loaded).mpr known
  have own := Delays.delayOf?_of_resolve loaded declared resolved
  have other := Delays.delayOf?_of_resolve loaded known resolvedOthers
  rw [shaping_of_resolve resolved, shaping_of_resolve resolvedOthers, Except.ok.injEq,
    Delays.shaping_eq_iff]
  simp only [← own, ← other]

theorem shaping_of_oneWay {os : List DelayOverride} (turned : Turned c.delayOverrides os)
    (oneWay : c.OneWay) (others : (c.withOverrides os).OneWay) (links : List (NodeId × NodeId)) :
    (c.withOverrides os).shaping t links = c.shaping t links := by
  have known : ∀ o ∈ (c.withOverrides os).delayOverrides, t.HasRelay o.a ∧ t.HasRelay o.b :=
    turned.hasRelay declared
  rw [shaping_eq_iff loaded declared known]
  intro link _
  have last : ((c.withOverrides os).lastOverride? t link.1 link.2).map (·.delay) =
      (c.lastOverride? t link.1 link.2).map (·.delay) := by
    apply Checked.findRev?_of_forall₂ turned
    rintro o _ (rfl | rfl)
    · exact ⟨rfl, rfl⟩
    · exact ⟨o.connects_turned t link.1 link.2, rfl⟩
  rw [delayOf?, delayOf?, ruling?_eq_lastOverride? loaded known others,
    ruling?_eq_lastOverride? loaded declared oneWay, last]
  rfl

/-- Overrides can be turned round without effect if those of each link agree, and otherwise some
turn changes the shaping. A turn from one way of naming to another has no effect in any case. -/
theorem turning_unchanged_iff {links : List (NodeId × NodeId)}
    (ordered : ∀ link ∈ links, link.1 < link.2) :
    (∀ os, Turned c.delayOverrides os →
        ∃ table, (c.withOverrides os).shaping t links = .ok table) ∧
      (∀ os, Turned c.delayOverrides os → c.OneWay → (c.withOverrides os).OneWay →
        (c.withOverrides os).shaping t links = c.shaping t links) ∧
      ((∀ os, Turned c.delayOverrides os →
          (c.withOverrides os).shaping t links = c.shaping t links) ↔
        ∀ link ∈ links, c.Agrees t link.1 link.2) := by
  refine ⟨fun os turned => ?_, fun os turned oneWay others =>
    shaping_of_oneWay loaded declared turned oneWay others links, ?_⟩
  · obtain ⟨table, shaped, _⟩ :=
      shaping_ok loaded (c := c.withOverrides os) (turned.hasRelay declared) links
    exact ⟨table, shaped⟩
  · constructor
    · intro unchanged link linked o member p listed connectsO connectsP
      have different : link.1 ≠ link.2 := Nat.ne_of_lt (ordered link linked)
      have ruled {o : DelayOverride} (member : o ∈ c.delayOverrides)
          (connects : o.connects t link.1 link.2 = true) :
          c.delayOf? t link.1 link.2 = some o.delay := by
        have turned := Turned.facing t link.1 link.2 o.delay c.delayOverrides
        have same := (shaping_eq_iff loaded declared (turned.hasRelay declared) links).mp
          (unchanged _ turned) link linked
        rw [← same, delayOf?_facing different member connects]
      exact Option.some.inj ((ruled member connectsO).symm.trans (ruled listed connectsP))
    · intro agrees os turned
      rw [shaping_eq_iff loaded declared (turned.hasRelay declared)]
      exact fun link linked => delayOf?_of_agrees (agrees link linked) turned

end Loaded

def squareLinks : List (NodeId × NodeId) := [(0, 1), (0, 2), (1, 3), (2, 3)]

def twoWay : Configuration where
  delayOverrides := [⟨"a", "b", ⟨0x4014000000000000⟩⟩, ⟨"b", "a", ⟨0x4014000000000000⟩⟩,
    ⟨"c", "a", ⟨0x4008000000000000⟩⟩]

theorem twoWay_unchanged :
    (∀ o ∈ twoWay.delayOverrides, Topology.square.HasRelay o.a ∧ Topology.square.HasRelay o.b) ∧
      (∀ link ∈ squareLinks, link.1 < link.2) ∧
      ∀ os, Turned twoWay.delayOverrides os →
        (twoWay.withOverrides os).shaping Topology.square squareLinks =
          .ok [⟨0, 1, ⟨0x4014000000000000⟩⟩, ⟨0, 2, ⟨0x4008000000000000⟩⟩] := by
  have declared : ∀ o ∈ twoWay.delayOverrides,
      Topology.square.HasRelay o.a ∧ Topology.square.HasRelay o.b := by decide
  have ordered : ∀ link ∈ squareLinks, link.1 < link.2 := by decide
  have agrees : ∀ link ∈ squareLinks, twoWay.Agrees Topology.square link.1 link.2 := by decide
  have shaped : twoWay.shaping Topology.square squareLinks =
      .ok [⟨0, 1, ⟨0x4014000000000000⟩⟩, ⟨0, 2, ⟨0x4008000000000000⟩⟩] := by decide +kernel
  refine ⟨declared, ordered, fun os turned => ?_⟩
  obtain ⟨_, _, unchanged⟩ := turning_unchanged_iff Topology.load_square declared ordered
  rw [unchanged.mpr agrees os turned, shaped]

def opposed : Configuration where
  delayOverrides := [⟨"a", "b", ⟨0x3ff0000000000000⟩⟩, ⟨"b", "a", ⟨0x4000000000000000⟩⟩]

def aligned : List DelayOverride :=
  [⟨"a", "b", ⟨0x3ff0000000000000⟩⟩, ⟨"a", "b", ⟨0x4000000000000000⟩⟩]

theorem opposed_changed :
    (∀ o ∈ opposed.delayOverrides, Topology.square.HasRelay o.a ∧ Topology.square.HasRelay o.b) ∧
      (∀ link ∈ squareLinks, link.1 < link.2) ∧
      Turned opposed.delayOverrides aligned ∧
      opposed.shaping Topology.square squareLinks = .ok [⟨0, 1, ⟨0x3ff0000000000000⟩⟩] ∧
      (opposed.withOverrides aligned).shaping Topology.square squareLinks =
        .ok [⟨0, 1, ⟨0x4000000000000000⟩⟩] := by
  refine ⟨by decide, by decide, ?_, by decide +kernel, by decide +kernel⟩
  exact .cons (.inl rfl) (.cons (.inr rfl) .nil)

end Configuration

end RelayMesh
