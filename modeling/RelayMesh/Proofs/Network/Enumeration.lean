import RelayMesh.Proofs.Network.Range

/-! Subnets and hosts by their members. The blocks of one length inside a network, and the addresses
that a host may take there, each stand at one place of their enumeration, in ascending order and up
to the number that is computed from the lengths alone. -/

namespace RelayMesh.Network

/-- A network of a given length, without host bits, all members of which are members of `net`. -/
structure HasSubnet (net : Network) (length : Nat) (sub : Network) : Prop where
  length : sub.length = length
  clean : sub.address.toNat = sub.base
  inside : ∀ a, sub.Holds a → net.Holds a

@[simp] theorem hasSubnet_truncated {net sub : Network} {length : Nat} :
    net.truncated.HasSubnet length sub ↔ net.HasSubnet length sub := by
  constructor
  · rintro ⟨own, clean, inside⟩
    exact ⟨own, clean, fun a held => (holds_truncated net a).mp (inside a held)⟩
  · rintro ⟨own, clean, inside⟩
    exact ⟨own, clean, fun a held => (holds_truncated net a).mpr (inside a held)⟩

theorem holds_base (net : Network) : net.Holds net.truncated.address := by
  have pos := net.size_pos
  simp only [Holds, address_truncated]
  omega

theorem toNat_last (net : Network) : (Address.ofNat net.last).toNat = net.base + net.size - 1 := by
  have pos := net.size_pos
  have top := net.base_add_size_le
  exact Address.toNat_ofNat_of_lt (by rw [last]; omega)

theorem holds_last (net : Network) : net.Holds (.ofNat net.last) := by
  have pos := net.size_pos
  simp only [Holds, toNat_last]
  omega

theorem bounds_of_inside {net sub : Network} (inside : ∀ a, sub.Holds a → net.Holds a) :
    net.base ≤ sub.base ∧ sub.base + sub.size ≤ net.base + net.size := by
  have first := inside _ sub.holds_base
  have final := inside _ sub.holds_last
  have pos := sub.size_pos
  simp only [Holds, address_truncated, toNat_last] at first final
  omega

theorem length_le_of_inside {net sub : Network} (inside : ∀ a, sub.Holds a → net.Holds a) :
    net.length ≤ sub.length := by
  by_contra shorter
  have larger : net.size < sub.size :=
    Nat.pow_lt_pow_right (by decide) (by have := net.length_le; omega)
  have bounds := bounds_of_inside inside
  omega

section Subnets

variable {net : Network} {length : Nat}

theorem lt_subnetCount {sub : Network} {index : Nat}
    (drawn : net.subnet? length index = some sub) : index < net.subnetCount length := by
  obtain ⟨_, rest⟩ := Option.dite_none_right_eq_some.mp drawn
  exact (Option.ite_none_right_eq_some.mp rest).1

theorem subnetCount_le (net : Network) (length : Nat) : net.subnetCount length ≤ UInt32.size := by
  rw [subnetCount]
  split_ifs with fits
  · have limit : UInt32.size = 2 ^ 32 := rfl
    rw [limit]
    exact Nat.pow_le_pow_right (by decide) (by omega)
  · exact Nat.zero_le _

theorem hasSubnet_of_subnet? {sub : Network} {index : Nat}
    (drawn : net.subnet? length index = some sub) : net.HasSubnet length sub := by
  obtain ⟨own, clean, _⟩ := subnet?_spec drawn
  exact ⟨own, clean, fun _ held => holds_of_subnet? drawn held⟩

theorem base_lt_of_subnet? {x y : Network} {i j : Nat} (before : i < j)
    (first : net.subnet? length i = some x) (second : net.subnet? length j = some y) :
    x.base < y.base := by
  obtain ⟨lengthX, _, baseX, _⟩ := subnet?_spec first
  obtain ⟨lengthY, _, baseY, _⟩ := subnet?_spec second
  have same : x.size = y.size := by rw [size_eq, size_eq, lengthX, lengthY]
  rw [baseX, baseY, same]
  exact Nat.add_lt_add_left (Nat.mul_lt_mul_of_pos_right before y.size_pos) net.base

theorem exists_subnet? {sub : Network} (own : net.HasSubnet length sub) :
    ∃ index, net.subnet? length index = some sub := by
  obtain ⟨rfl, clean, inside⟩ := own
  obtain ⟨lower, upper⟩ := bounds_of_inside inside
  have fits := length_le_of_inside inside
  have aligned : sub.size ∣ sub.base - net.base :=
    Nat.dvd_sub sub.size_dvd_base ((size_dvd_size fits).trans net.size_dvd_base)
  obtain ⟨index, distance⟩ := aligned
  have base : sub.base = net.base + index * sub.size := by
    rw [Nat.mul_comm, ← distance]
    omega
  have total : net.size = 2 ^ (sub.length - net.length) * sub.size := by
    have := sub.length_le
    rw [size_eq, size_eq, ← pow_add]
    congr 1
    omega
  have below : index < 2 ^ (sub.length - net.length) := by
    have room : (index + 1) * sub.size ≤ 2 ^ (sub.length - net.length) * sub.size := by
      rw [← total, Nat.succ_mul]
      omega
    exact Nat.le_of_mul_le_mul_right room sub.size_pos
  refine ⟨index, ?_⟩
  have counted : index < net.subnetCount sub.length := by
    rw [subnetCount, if_pos ⟨fits, sub.length_le⟩]
    exact below
  rw [subnet?, dif_pos ⟨fits, sub.length_le⟩, if_pos counted]
  have same : Address.ofNat (net.base + index * Nat.pow 2 (32 - sub.length)) = sub.address := by
    apply Address.ext_toNat
    have number : net.base + index * Nat.pow 2 (32 - sub.length) = sub.base := base.symm
    rw [number, Address.toNat_ofNat_of_lt sub.base_lt, clean]
  rw [Option.some_inj]
  cases sub
  simp only [mk.injEq, and_true] at same ⊢
  exact same

theorem hasSubnet_iff {sub : Network} :
    net.HasSubnet length sub ↔ ∃ index, net.subnet? length index = some sub :=
  ⟨exists_subnet?, fun ⟨_, drawn⟩ => hasSubnet_of_subnet? drawn⟩

end Subnets

section Hosts

variable {net : Network}

theorem lt_hostCount {a : Address} {index : Nat} (found : net.host? index = some a) :
    index < hostCount net.length :=
  (Option.ite_none_right_eq_some.mp found).1

theorem hostCount_le (length : Nat) : hostCount length ≤ UInt32.size := by
  have limit : UInt32.size = 2 ^ 32 := rfl
  have power : 2 ^ (32 - length) ≤ 2 ^ 32 := Nat.pow_le_pow_right (by decide) (Nat.sub_le 32 length)
  rw [hostCount, limit]
  split_ifs
  · decide
  · decide
  · exact (Nat.sub_le _ 2).trans power
  · exact Nat.zero_le _

theorem lt_of_host? {a b : Address} {i j : Nat} (before : i < j) (first : net.host? i = some a)
    (second : net.host? j = some b) : a.toNat < b.toNat := by
  rw [(host?_spec first).1, (host?_spec second).1]
  omega

theorem hostCount_eq (net : Network) :
    hostCount net.length = net.size - if net.length < 31 then 2 else 0 := by
  have fits := net.length_le
  have size := net.size_eq
  rcases (show net.length < 31 ∨ net.length = 31 ∨ net.length = 32 by omega) with
    short | own | own
  · rw [hostCount, if_neg (by omega), if_neg (by omega), if_pos short, if_pos short]
    rfl
  · rw [size, own]
    rfl
  · rw [size, own]
    rfl

theorem exists_host? {a : Address} (held : net.HoldsHost a) : ∃ index, net.host? index = some a := by
  obtain ⟨⟨lower, upper⟩, inner⟩ := held
  rw [last] at inner
  let skipped := if net.length < 31 then 1 else 0
  have counted : a.toNat - net.base - skipped < hostCount net.length ∧
      net.base + (a.toNat - net.base - skipped) + skipped = a.toNat := by
    simp only [skipped, hostCount_eq]
    split
    · omega
    · omega
  refine ⟨a.toNat - net.base - skipped, ?_⟩
  rw [host?, if_pos counted.1, Option.some_inj]
  apply Address.ext_toNat
  rw [counted.2]
  exact Address.toNat_ofNat_of_lt a.isLt

theorem holdsHost_iff {a : Address} : net.HoldsHost a ↔ ∃ index, net.host? index = some a :=
  ⟨exists_host?, fun ⟨_, found⟩ => (host?_spec found).2⟩

structure FirstHosts (net : Network) (x y : Address) : Prop where
  first : net.HoldsHost x
  second : net.HoldsHost y
  ordered : x.toNat < y.toNat
  least : ∀ a, net.HoldsHost a → a = x ∨ y.toNat ≤ a.toNat

theorem firstHosts_of_host? {x y : Address} (first : net.host? 0 = some x)
    (second : net.host? 1 = some y) : net.FirstHosts x y := by
  refine ⟨(host?_spec first).2, (host?_spec second).2, lt_of_host? Nat.zero_lt_one first second, ?_⟩
  intro a held
  obtain ⟨index, found⟩ := exists_host? held
  rcases index with _ | _ | index
  · exact .inl (Option.some.inj (found.symm.trans first))
  · exact .inr (Nat.le_of_eq (congrArg Address.toNat (Option.some.inj (second.symm.trans found))))
  · exact .inr (Nat.le_of_lt (lt_of_host? (by omega) second found))

end Hosts

end RelayMesh.Network
