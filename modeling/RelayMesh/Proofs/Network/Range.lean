import Mathlib.Algebra.Order.Ring.Nat
import Mathlib.Tactic.Ring
import RelayMesh.Network.Range

namespace RelayMesh.Network

def Disjoint (x y : Network) : Prop :=
  ∀ a, x.Holds a → ¬ y.Holds a

/-- Membership of an address that a host may take: a network of more than two addresses keeps its
least and its greatest one for itself. -/
def HoldsHost (net : Network) (a : Address) : Prop :=
  net.Holds a ∧ (net.length ≤ 30 → a.toNat ≠ net.base ∧ a.toNat ≠ net.last)

theorem size_eq (net : Network) : net.size = 2 ^ (32 - net.length) := rfl

theorem size_pos (net : Network) : 0 < net.size :=
  Nat.pow_pos (by decide)

theorem size_dvd_size {x y : Network} (longer : x.length ≤ y.length) : y.size ∣ x.size := by
  rw [size_eq, size_eq]
  exact pow_dvd_pow 2 (by omega)

theorem size_dvd_all (net : Network) : net.size ∣ UInt32.size :=
  pow_dvd_pow 2 (Nat.sub_le 32 net.length)

theorem size_dvd_base (net : Network) : net.size ∣ net.base :=
  Nat.dvd_mul_left _ _

theorem block_le {size a bound : Nat} (below : a < bound) (multiple : size ∣ bound) :
    a / size * size + size ≤ bound := by
  obtain ⟨k, rfl⟩ := multiple
  have quotient : a / size < k := Nat.div_lt_of_lt_mul below
  calc a / size * size + size = size * (a / size + 1) := by ring
    _ ≤ size * k := Nat.mul_le_mul_left size quotient

theorem le_block {size a bound : Nat} (pos : 0 < size) (above : bound ≤ a)
    (multiple : size ∣ bound) : bound ≤ a / size * size := by
  obtain ⟨k, rfl⟩ := multiple
  have quotient : k ≤ a / size := (Nat.le_div_iff_mul_le pos).mpr (by rwa [Nat.mul_comm])
  calc size * k = k * size := Nat.mul_comm size k
    _ ≤ a / size * size := Nat.mul_le_mul_right size quotient

theorem base_add_size_le (net : Network) : net.base + net.size ≤ UInt32.size :=
  block_le net.address.isLt net.size_dvd_all

theorem base_lt (net : Network) : net.base < UInt32.size := by
  have fits := net.base_add_size_le
  have pos := net.size_pos
  omega

theorem holds_address (net : Network) : net.Holds net.address := by
  have upper : net.address.toNat < net.address.toNat / net.size * net.size + net.size :=
    Nat.lt_div_mul_add net.size_pos
  exact ⟨Nat.div_mul_le_self _ _, upper⟩

theorem base_of_holds {net : Network} {a : Address} (held : net.Holds a) :
    a.toNat / net.size * net.size = net.base := by
  have lower := le_block net.size_pos held.1 net.size_dvd_base
  have upper := block_le held.2 (Nat.dvd_add net.size_dvd_base (Nat.dvd_refl _))
  omega

@[simp] theorem length_truncated (net : Network) : net.truncated.length = net.length := rfl

@[simp] theorem size_truncated (net : Network) : net.truncated.size = net.size := rfl

@[simp] theorem address_truncated (net : Network) : net.truncated.address.toNat = net.base :=
  Address.toNat_ofNat_of_lt net.base_lt

@[simp] theorem base_truncated (net : Network) : net.truncated.base = net.base := by
  have whole := Nat.div_mul_cancel net.size_dvd_base
  simpa only [base, size_truncated, address_truncated] using whole

@[simp] theorem holds_truncated (net : Network) (a : Address) :
    net.truncated.Holds a ↔ net.Holds a := by
  simp only [Holds, base_truncated, size_truncated]

@[simp] theorem holdsHost_truncated (net : Network) (a : Address) :
    net.truncated.HoldsHost a ↔ net.HoldsHost a := by
  simp only [HoldsHost, holds_truncated, last, base_truncated, size_truncated, length_truncated]

theorem truncated_eq_self {net : Network} (clean : net.address.toNat = net.base) :
    net.truncated = net := by
  have same : net.truncated.address = net.address :=
    Address.ext_toNat (net.address_truncated.trans clean.symm)
  cases net
  simp only [truncated, mk.injEq, and_true] at same ⊢
  exact same

theorem truncated_eq {x y : Network} (length : x.length = y.length) (base : x.base = y.base) :
    x.truncated = y.truncated := by
  simp only [truncated, length, base]

theorem truncated_withAddress {net : Network} (clean : net.address.toNat = net.base) {a : Address}
    (held : net.Holds a) : (net.withAddress a).truncated = net := by
  have base : (net.withAddress a).base = net.base := base_of_holds held
  have same : (net.withAddress a).truncated = net.truncated := truncated_eq rfl base
  rw [same, truncated_eq_self clean]

theorem Disjoint.symm {x y : Network} (apart : x.Disjoint y) : y.Disjoint x :=
  fun a hy hx => apart a hx hy

theorem contains_of_common {x y : Network} {a : Address} (hx : x.Holds a) (hy : y.Holds a)
    (longer : x.length ≤ y.length) : x.contains y = true := by
  have aligned := size_dvd_size longer
  have lower := le_block y.size_pos hx.1 (aligned.trans x.size_dvd_base)
  have upper := block_le hx.2 (Nat.dvd_add (aligned.trans x.size_dvd_base) aligned)
  rw [base_of_holds hy] at lower upper
  have posX := x.size_pos
  have posY := y.size_pos
  rw [contains, Bool.and_eq_true, decide_eq_true_eq, decide_eq_true_eq, last, last]
  omega

theorem disjoint_of_not_contains {x y : Network} (outer : x.contains y = false)
    (inner : y.contains x = false) : x.Disjoint y := by
  intro a hx hy
  rcases Nat.le_total x.length y.length with longer | longer
  · rw [contains_of_common hx hy longer] at outer
    contradiction
  · rw [contains_of_common hy hx longer] at inner
    contradiction

theorem subnet?_spec {net sub : Network} {length index : Nat}
    (drawn : net.subnet? length index = some sub) :
    sub.length = length ∧ sub.address.toNat = sub.base ∧ sub.base = net.base + index * sub.size ∧
      (index + 1) * sub.size ≤ net.size := by
  unfold subnet? at drawn
  split at drawn
  · rename_i fits
    split at drawn
    · rename_i below
      cases Option.some.inj drawn
      have size : (2 : Nat) ^ (length - net.length) * 2 ^ (32 - length) = net.size := by
        rw [← pow_add, size_eq]
        congr 1
        omega
      simp only [subnetCount, if_pos fits] at below
      have room : (index + 1) * 2 ^ (32 - length) ≤ net.size := by
        rw [← size]
        exact Nat.mul_le_mul_right _ below
      have top := net.base_add_size_le
      have wide : net.base + index * 2 ^ (32 - length) < UInt32.size := by
        have pos : 0 < 2 ^ (32 - length) := Nat.pow_pos (by decide)
        rw [Nat.succ_mul] at room
        omega
      have number := Address.toNat_ofNat_of_lt wide
      have whole : 2 ^ (32 - length) ∣ net.base + index * 2 ^ (32 - length) :=
        Nat.dvd_add ((pow_dvd_pow 2 (by omega)).trans net.size_dvd_base) (Nat.dvd_mul_left _ _)
      have base : (⟨.ofNat (net.base + index * 2 ^ (32 - length)), length, fits.2⟩ : Network).base =
          net.base + index * 2 ^ (32 - length) := by
        rw [Network.base, size_eq, number]
        exact Nat.div_mul_cancel whole
      exact ⟨rfl, number.trans base.symm, base, room⟩
    · contradiction
  · contradiction

theorem holds_of_subnet? {net sub : Network} {length index : Nat}
    (drawn : net.subnet? length index = some sub) {a : Address} (held : sub.Holds a) :
    net.Holds a := by
  obtain ⟨_, _, base, room⟩ := subnet?_spec drawn
  rw [Nat.succ_mul] at room
  simp only [Holds] at held ⊢
  omega

theorem disjoint_of_subnet? {net x y : Network} {length i j : Nat}
    (drawnX : net.subnet? length i = some x) (drawnY : net.subnet? length j = some y)
    (different : i ≠ j) : x.Disjoint y := by
  obtain ⟨lengthX, _, baseX, _⟩ := subnet?_spec drawnX
  obtain ⟨lengthY, _, baseY, _⟩ := subnet?_spec drawnY
  have same : x.size = y.size := by rw [size_eq, size_eq, lengthX, lengthY]
  intro a hx hy
  simp only [Holds, baseX, baseY, same] at hx hy
  rcases Nat.lt_or_gt_of_ne different with before | before
  · have gap := Nat.mul_le_mul_right y.size before
    rw [Nat.succ_mul] at gap
    omega
  · have gap := Nat.mul_le_mul_right y.size before
    rw [Nat.succ_mul] at gap
    omega

theorem host_room {length index : Nat} (below : index < hostCount length) :
    (length < 31 → index + 2 < 2 ^ (32 - length)) ∧ index < 2 ^ (32 - length) := by
  have power : Nat.pow 2 (32 - length) = 2 ^ (32 - length) := rfl
  unfold hostCount at below
  split at below
  · rename_i all
    subst all
    omega
  · split at below
    · rename_i pair
      subst pair
      omega
    · split at below
      · omega
      · omega

theorem host?_spec {net : Network} {index : Nat} {a : Address}
    (found : net.host? index = some a) :
    a.toNat = net.base + index + (if net.length < 31 then 1 else 0) ∧ net.HoldsHost a := by
  unfold host? at found
  split at found
  · rename_i below
    cases Option.some.inj found
    have room := host_room below
    rw [← size_eq] at room
    have top := net.base_add_size_le
    by_cases short : net.length < 31
    · have inner := room.1 short
      simp only [if_pos short]
      have number := Address.toNat_ofNat_of_lt
        (show net.base + index + 1 < UInt32.size by omega)
      rw [number]
      refine ⟨rfl, ⟨?_, ?_⟩, fun _ => ⟨?_, ?_⟩⟩ <;> simp only [number, last] <;> omega
    · simp only [if_neg short]
      have number := Address.toNat_ofNat_of_lt (show net.base + index + 0 < UInt32.size by omega)
      refine ⟨number, ⟨?_, ?_⟩, fun small => ?_⟩
      · rw [number]
        omega
      · rw [number]
        omega
      · omega
  · contradiction

theorem atOffset?_spec {net : Network} {offset : Nat} {a : Address}
    (found : net.atOffset? offset = some a) (positive : 0 < offset) :
    a.toNat = net.base + offset ∧ net.HoldsHost a := by
  unfold atOffset? at found
  split at found
  · rename_i fits
    cases Option.some.inj found
    have top := net.base_add_size_le
    have number := Address.toNat_ofNat_of_lt (show net.base + offset < UInt32.size by omega)
    refine ⟨number, ?_, ?_⟩
    · simp only [Holds, number]
      omega
    · intro short
      simp only [number, last]
      omega
  · contradiction

end RelayMesh.Network
