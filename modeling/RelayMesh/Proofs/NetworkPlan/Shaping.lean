import RelayMesh.Proofs.Delay.Precedence
import RelayMesh.Proofs.NetworkPlan.Stages

namespace RelayMesh

theorem Topology.isDelay_of_delayFor {policy : DuplicateEdges} {doc : Document} {t : Topology}
    (loaded : load policy doc = .ok t) {x y : NodeId} {delay : Binary64}
    (own : t.delayFor x y = some delay) : isDelay delay = true := by
  obtain ⟨e, first, set⟩ := Option.bind_eq_some_iff.mp own
  exact isDelay_of_load loaded (List.mem_of_find?_eq_some first) set

namespace Configuration

/-- The delay that a link takes from the configuration, if any: that of an override, or the default
if the edges set none. -/
inductive Supplies (c : Configuration) (t : Topology) (x y : NodeId) : Binary64 → Prop where
  | override {o : DelayOverride} (ruling : c.ruling? t x y = some o) : c.Supplies t x y o.delay
  | fallback {delay : Binary64} (free : c.ruling? t x y = none) (unset : t.delayFor x y = none)
      (given : c.defaultDelay = some delay) : c.Supplies t x y delay

theorem delayOf?_eq_some_iff {c : Configuration} {t : Topology} {x y : NodeId} {delay : Binary64} :
    c.delayOf? t x y = some delay ↔
      c.Supplies t x y delay ∨ c.ruling? t x y = none ∧ t.delayFor x y = some delay := by
  rw [delayOf?, Option.or_eq_some_iff, Option.or_eq_some_iff, Option.map_eq_none_iff,
    Option.map_eq_some_iff]
  constructor
  · rintro (⟨o, ruling, rfl⟩ | ⟨free, own | ⟨unset, given⟩⟩)
    · exact .inl (.override ruling)
    · exact .inr ⟨free, own⟩
    · exact .inl (.fallback free unset given)
  · rintro (supplied | ⟨free, own⟩)
    · cases supplied with
      | override ruling => exact .inl ⟨_, ruling, rfl⟩
      | fallback free unset given => exact .inr ⟨free, .inr ⟨unset, given⟩⟩
    · exact .inr ⟨free, .inl own⟩

theorem Supplies.configured {c : Configuration} {t : Topology} {x y : NodeId} {delay : Binary64}
    (supplied : c.Supplies t x y delay) :
    c.defaultDelay = some delay ∨ ∃ o ∈ c.delayOverrides, o.delay = delay := by
  cases supplied with
  | override ruling => exact .inr ⟨_, (ruling?_spec ruling).1, rfl⟩
  | fallback _ _ given => exact .inl given

end Configuration

namespace NetworkPlan

section Compiled

variable {c : Configuration} {doc : Document} {p : NetworkPlan} (compiled : compile c doc = .ok p)
include compiled

theorem mem_shaping_of_compile {s : LinkShaping} : s ∈ p.shaping ↔
    (s.a, s.b) ∈ p.topology.links c.mesh ∧ c.delayOf? p.topology s.a s.b = some s.delay := by
  obtain ⟨loaded, _, _, _, ⟨delays, resolved, shaping⟩, _⟩ := compile_spec compiled
  have declared := (Delays.resolve_ok_iff loaded).mp ⟨delays, resolved⟩
  rw [shaping, Delays.mem_shaping_iff, Delays.delayOf?_of_resolve loaded declared resolved]

theorem valid_shaping_iff :
    (∀ s ∈ p.shaping, s.delay.isFinite = true ∧ Binary64.zero.le s.delay = true) ↔
      ∀ link ∈ p.topology.links c.mesh, ∀ x, c.Supplies p.topology link.1 link.2 x →
        x.isFinite = true ∧ Binary64.zero.le x = true := by
  constructor
  · intro valid link linked x supplied
    have found := Configuration.delayOf?_eq_some_iff.mpr (.inl supplied)
    exact valid ⟨link.1, link.2, x⟩ ((mem_shaping_of_compile compiled).mpr ⟨linked, found⟩)
  · intro valid s member
    obtain ⟨linked, found⟩ := (mem_shaping_of_compile compiled).mp member
    rcases Configuration.delayOf?_eq_some_iff.mp found with supplied | ⟨_, own⟩
    · exact valid (s.a, s.b) linked s.delay supplied
    · obtain ⟨loaded, _⟩ := compile_spec compiled
      exact Topology.isDelay_iff.mp (Topology.isDelay_of_delayFor loaded own)

end Compiled

theorem ladder_valid :
    ∃ p, compile Configuration.ladderDelays Configuration.ladderDocument = .ok p ∧
      p.shaping.map (·.delay) = [⟨0x401c000000000000⟩, ⟨0x4008000000000000⟩, ⟨0x3ff0000000000000⟩,
        ⟨0x3ff0000000000000⟩, ⟨0x3ff0000000000000⟩, ⟨0x4010000000000000⟩] ∧
      ∀ s ∈ p.shaping, s.delay.isFinite = true ∧ Binary64.zero.le s.delay = true := by
  let p := (compile Configuration.ladderDelays Configuration.ladderDocument).toOption.getD default
  have compiled : compile Configuration.ladderDelays Configuration.ladderDocument = .ok p := by
    decide +kernel
  have fallback : ∀ x ∈ Configuration.ladderDelays.defaultDelay,
      x.isFinite = true ∧ Binary64.zero.le x = true := by decide +kernel
  have overrides : ∀ o ∈ Configuration.ladderDelays.delayOverrides,
      o.delay.isFinite = true ∧ Binary64.zero.le o.delay = true := by decide +kernel
  refine ⟨p, compiled, by decide +kernel, (valid_shaping_iff compiled).mpr ?_⟩
  intro _ _ x supplied
  rcases supplied.configured with given | ⟨o, member, rfl⟩
  · exact fallback x given
  · exact overrides o member

def unchecked : Configuration where
  defaultDelay := some ⟨0xbff0000000000000⟩
  delayOverrides := [⟨"a", "b", ⟨0xc000000000000000⟩⟩]

theorem unchecked_invalid : ∃ p, compile unchecked Topology.squareDocument = .ok p ∧
    p.shaping.length = 6 ∧ ∀ s ∈ p.shaping, Binary64.zero.le s.delay = false := by
  refine ⟨(compile unchecked Topology.squareDocument).toOption.getD default, ?_⟩
  decide +kernel

end NetworkPlan

end RelayMesh
