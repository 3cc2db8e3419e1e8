import Mathlib.Order.Basic
import RelayMesh.Proofs.Addressing.Builder

namespace RelayMesh

open Checked (bind_ok pure_ok)

namespace AddressSpace

variable {s : AddressSpace} {cls : AddressClass}

/-- The networks of which a class consists: the hosts of the range of identities, and the subnets
of all other ranges. -/
def Offers (s : AddressSpace) (cls : AddressClass) (net : Network) : Prop :=
  match cls with
  | .relayIdentity => net.length = 32 ∧ (s.configured .relayIdentity).HoldsHost net.address
  | cls => (s.configured cls).HasSubnet (s.subnetLength cls) net

theorem offers_iff {net : Network} : s.Offers cls net ↔ ∃ i, s.network? cls i = some net := by
  cases cls with
  | relayIdentity =>
    simp only [Offers, network?, range, ← Network.holdsHost_truncated (s.configured _),
      Network.holdsHost_iff, Option.map_eq_some_iff]
    constructor
    · rintro ⟨single, i, found⟩
      cases net
      cases single
      exact ⟨i, _, found, rfl⟩
    · rintro ⟨i, a, found, rfl⟩
      exact ⟨rfl, i, found⟩
  | meshBackbone | clientAttachment | controlPlane =>
    exact Network.hasSubnet_truncated.symm.trans Network.hasSubnet_iff

theorem draw_ok_iff {i : Nat} : (∃ sub, s.draw cls i = .ok sub) ↔ i < s.capacity cls := by
  constructor
  · rintro ⟨sub, drawn⟩
    obtain ⟨key, own⟩ := draw_spec drawn
    obtain ⟨rfl, rfl⟩ := Prod.mk.inj key
    exact index_lt_of_drawn own
  · intro below
    obtain ⟨sub, drawn, _⟩ := draw_of_lt below
    exact ⟨sub, drawn⟩

theorem draw_error_iff {i : Nat} :
    s.draw cls i = .error (.notEnoughAddresses cls) ↔ s.capacity cls ≤ i := by
  rw [← Nat.not_lt, ← draw_ok_iff, ← Checked.exists_error_iff, draw]
  cases s.network? cls i with
  | none => simp
  | some network => simp

theorem network?_of_draw {i : Nat} {sub : Subnet} (drawn : s.draw cls i = .ok sub) :
    s.network? cls i = some sub.network := by
  obtain ⟨key, own⟩ := draw_spec drawn
  obtain ⟨rfl, rfl⟩ := Prod.mk.inj key
  exact own

theorem draw_of_drawLink {i : Nat} {sub : Subnet} {x y : Address}
    (linked : s.drawLink cls i = .ok (sub, x, y)) : s.draw cls i = .ok sub := by
  simp only [drawLink, bind_ok, pure_ok, Prod.mk.injEq] at linked
  obtain ⟨_, drawn, _, _, _, _, rfl, _⟩ := linked
  exact drawn

theorem base_lt_of_network? {i j : Nat} (before : i < j) {x y : Network}
    (first : s.network? cls i = some x) (second : s.network? cls j = some y) : x.base < y.base := by
  cases cls with
  | relayIdentity =>
    obtain ⟨a, foundA, rfl⟩ := Option.map_eq_some_iff.mp first
    obtain ⟨c, foundC, rfl⟩ := Option.map_eq_some_iff.mp second
    simpa [Network.base, Network.size_eq] using Network.lt_of_host? before foundA foundC
  | meshBackbone | clientAttachment | controlPlane =>
    exact Network.base_lt_of_subnet? before first second

end AddressSpace

namespace AddressBuilder

variable {b b' b'' : AddressBuilder} {cls : AddressClass} {sub : Subnet} {subs : List Subnet}

theorem next_ok_iff : (next cls).run b = .ok (sub, b') ↔
    b.space.draw cls (b.drawn cls) = .ok sub ∧ b' = b.advance cls 1 := by
  rw [run_next]
  cases b.space.draw cls (b.drawn cls) with
  | error e => simp
  | ok own => simp [eq_comm]

theorem next_error_iff : (next cls).run b = .error (.notEnoughAddresses cls) ↔
    b.space.capacity cls ≤ b.drawn cls := by
  rw [← AddressSpace.draw_error_iff, run_next]
  cases b.space.draw cls (b.drawn cls) <;> simp

/-- From one builder to another one, a class hands out all subnets that it has left. -/
inductive Exhausts (cls : AddressClass) : AddressBuilder → List Subnet → AddressBuilder → Prop
  | done {b : AddressBuilder} (spent : (next cls).run b = .error (.notEnoughAddresses cls)) :
    Exhausts cls b [] b
  | more {b b' b'' : AddressBuilder} {sub : Subnet} {subs : List Subnet}
    (handed : (next cls).run b = .ok (sub, b')) (rest : Exhausts cls b' subs b'') :
    Exhausts cls b (sub :: subs) b''

theorem Exhausts.places (run : Exhausts cls b subs b') (k : Nat) (sub : Subnet) :
    subs[k]? = some sub ↔ b.space.draw cls (b.drawn cls + k) = .ok sub := by
  induction run generalizing k with
  | @done b spent =>
    have beyond : b.space.capacity cls ≤ b.drawn cls + k :=
      (next_error_iff.mp spent).trans (Nat.le_add_right ..)
    rw [AddressSpace.draw_error_iff.mpr beyond]
    simp
  | @more b b' b'' own subs handed rest ih =>
    obtain ⟨drawn, rfl⟩ := next_ok_iff.mp handed
    cases k with
    | zero => simp [drawn]
    | succ k =>
      rw [List.getElem?_cons_succ, ih, space_advance, drawn_advance, Nat.add_assoc, Nat.add_comm 1]

theorem Exhausts.moves (run : Exhausts cls b subs b') : b' = b.advance cls subs.length := by
  induction run with
  | done => exact (advance_zero ..).symm
  | more handed _ ih =>
    obtain ⟨_, rfl⟩ := next_ok_iff.mp handed
    rw [ih, advance_advance, List.length_cons, Nat.add_comm]

theorem exists_exhausts (b : AddressBuilder) (cls : AddressClass) :
    ∃ subs b', Exhausts cls b subs b' := by
  -- The induction is on how many subnets the class has left.
  induction left : b.space.capacity cls - b.drawn cls generalizing b with
  | zero => exact ⟨[], b, .done (next_error_iff.mpr (by omega))⟩
  | succ left ih =>
    obtain ⟨sub, drawn⟩ := AddressSpace.draw_ok_iff.mpr
      (show b.drawn cls < b.space.capacity cls by omega)
    obtain ⟨subs, b', rest⟩ := ih (b.advance cls 1) (by
      rw [space_advance, drawn_advance]
      omega)
    exact ⟨sub :: subs, b', .more (next_ok_iff.mpr ⟨drawn, rfl⟩) rest⟩

theorem Exhausts.unique {subs' : List Subnet} (first : Exhausts cls b subs b')
    (second : Exhausts cls b subs' b'') : subs = subs' ∧ b' = b'' := by
  have same : subs = subs' := by
    apply List.ext_getElem?
    intro k
    apply Option.ext
    intro sub
    rw [first.places, second.places]
  exact ⟨same, by rw [first.moves, second.moves, same]⟩

theorem Exhausts.length_eq (run : Exhausts cls b subs b') :
    subs.length = b.space.capacity cls - b.drawn cls := by
  have within (k : Nat) : k < subs.length ↔ b.drawn cls + k < b.space.capacity cls := by
    simp only [← AddressSpace.draw_ok_iff, ← run.places]
    exact ⟨fun below => ⟨_, List.getElem?_eq_getElem below⟩,
      fun ⟨_, found⟩ => (List.getElem?_eq_some_iff.mp found).1⟩
  have beyond := within subs.length
  have rest := within (b.space.capacity cls - b.drawn cls)
  omega

theorem Exhausts.all {s : AddressSpace} (run : Exhausts cls (fresh s) subs b) :
    (subs.Pairwise fun x y => x.network.base < y.network.base) ∧
      ∀ net, net ∈ subs.map (·.network) ↔ s.Offers cls net := by
  have places (k : Nat) (sub : Subnet) : subs[k]? = some sub ↔ s.draw cls k = .ok sub := by
    simpa [fresh] using run.places k sub
  constructor
  · rw [List.pairwise_iff_getElem]
    intro i j hi hj before
    have first := (places i subs[i]).mp (List.getElem?_eq_getElem hi)
    have second := (places j subs[j]).mp (List.getElem?_eq_getElem hj)
    exact AddressSpace.base_lt_of_network? before (AddressSpace.network?_of_draw first)
      (AddressSpace.network?_of_draw second)
  · intro net
    rw [AddressSpace.offers_iff, List.mem_map]
    constructor
    · rintro ⟨sub, member, rfl⟩
      obtain ⟨k, listed⟩ := List.mem_iff_getElem?.mp member
      exact ⟨k, AddressSpace.network?_of_draw ((places k sub).mp listed)⟩
    · rintro ⟨k, found⟩
      have drawn : s.draw cls k = .ok ⟨cls, k, net⟩ := by rw [AddressSpace.draw, found]
      exact ⟨_, List.mem_iff_getElem?.mpr ⟨k, (places k _).mpr drawn⟩, rfl⟩

/-- Where the subnets of a class have two hosts or more, each one that is handed out yields its
first two. -/
theorem nextLink_of_next (roomy : b.space.checkPairRoom cls = .ok ())
    (handed : (next cls).run b = .ok (sub, b')) :
    ∃ x y, (nextLink cls).run b = .ok ((sub, x, y), b') ∧ sub.network.FirstHosts x y := by
  obtain ⟨drawn, rfl⟩ := next_ok_iff.mp handed
  obtain ⟨⟨own, x, y⟩, linked⟩ :=
    AddressSpace.drawLink_of_lt roomy (AddressSpace.draw_ok_iff.mp ⟨sub, drawn⟩)
  obtain rfl : own = sub :=
    Except.ok.inj ((AddressSpace.draw_of_drawLink linked).symm.trans drawn)
  have joins := (AddressSpace.drawLink_spec linked).2.2
  refine ⟨x, y, ?_, Network.firstHosts_of_host? joins.first joins.second⟩
  rw [run_nextLink, linked]
  rfl

end AddressBuilder

end RelayMesh
