import RelayMesh.Proofs.Addressing.Separation

/-! Classes that share addresses. The check only asks whether one range contains another, which is
enough: blocks of addresses that are cut at multiples of their sizes never overlap in part. So it
refuses exactly the spaces with a conflict, and reports the first one in the order of the classes. -/

namespace RelayMesh

namespace Network

theorem contains_iff {outer inner : Network} :
    outer.contains inner = true ↔
      outer.base ≤ inner.base ∧ inner.base + inner.size ≤ outer.base + outer.size := by
  have posOuter := outer.size_pos
  have posInner := inner.size_pos
  rw [contains, Bool.and_eq_true, decide_eq_true_eq, decide_eq_true_eq, last, last]
  omega

theorem exists_common_of_contains {outer inner : Network} (nested : outer.contains inner = true) :
    ∃ a, outer.Holds a ∧ inner.Holds a := by
  have posInner := inner.size_pos
  rw [contains_iff] at nested
  refine ⟨inner.truncated.address, ?_⟩
  simp only [Holds, address_truncated]
  omega

theorem nested_iff {x y : Network} :
    (x.contains y || y.contains x) = true ↔ ∃ a, x.Holds a ∧ y.Holds a := by
  rw [Bool.or_eq_true]
  constructor
  · rintro (nested | nested)
    · exact exists_common_of_contains nested
    · obtain ⟨a, hy, hx⟩ := exists_common_of_contains nested
      exact ⟨a, hx, hy⟩
  · rintro ⟨a, hx, hy⟩
    exact (Nat.le_total x.length y.length).imp (contains_of_common hx hy) (contains_of_common hy hx)

theorem disjoint_iff {x y : Network} : x.Disjoint y ↔ ¬ ∃ a, x.Holds a ∧ y.Holds a := by
  simp only [Disjoint, not_exists, not_and]

end Network

def AddressClass.place (c : AddressClass) : Nat :=
  AddressClass.all.idxOf c

theorem find?_eq_some_iff_least {α : Type} {before : α → α → Prop} {xs : List α} {p : α → Bool}
    {x : α} (ordered : xs.Pairwise before) (asymm : ∀ y z, before y z → ¬ before z y) :
    xs.find? p = some x ↔ x ∈ xs ∧ p x = true ∧ ∀ y ∈ xs, p y = true → ¬ before y x := by
  rw [List.find?_eq_some_iff_append]
  constructor
  · rintro ⟨hit, front, rest, rfl, missed⟩
    obtain ⟨_, behind, _⟩ := List.pairwise_append.mp ordered
    refine ⟨List.mem_append_right front List.mem_cons_self, hit, fun y member hitY earlier => ?_⟩
    rcases List.mem_append.mp member with member | member
    · simpa [hitY] using missed y member
    · rcases List.mem_cons.mp member with rfl | member
      · exact asymm y y earlier earlier
      · exact asymm y x earlier ((List.pairwise_cons.mp behind).1 y member)
  · rintro ⟨member, hit, least⟩
    obtain ⟨front, rest, rfl⟩ := List.append_of_mem member
    obtain ⟨_, _, across⟩ := List.pairwise_append.mp ordered
    refine ⟨hit, front, rest, rfl, fun y listed => ?_⟩
    by_contra other
    exact least y (List.mem_append_left _ listed) (by simpa using other)
      (across y listed x List.mem_cons_self)

namespace AddressSpace

def Share (s : AddressSpace) (c₁ c₂ : AddressClass) : Prop :=
  ∃ a, (s.configured c₁).Holds a ∧ (s.configured c₂).Holds a

def Earlier (p q : AddressClass × AddressClass) : Prop :=
  Precedes (p.1.place, p.2.place) (q.1.place, q.2.place)

instance (p q : AddressClass × AddressClass) : Decidable (Earlier p q) :=
  inferInstanceAs (Decidable (_ ∨ _))

/-- The classes share an address, and no two classes do that come before them. -/
structure FirstConflict (s : AddressSpace) (c₁ c₂ : AddressClass) : Prop where
  ordered : c₁.place < c₂.place
  shared : s.Share c₁ c₂
  first : ∀ d₁ d₂, d₁.place < d₂.place → s.Share d₁ d₂ → ¬ Earlier (d₁, d₂) (c₁, c₂)

theorem mem_classPairs_iff {c₁ c₂ : AddressClass} :
    (c₁, c₂) ∈ classPairs ↔ c₁.place < c₂.place := by
  cases c₁ <;> cases c₂ <;> decide

theorem earlier_classPairs : classPairs.Pairwise Earlier := by decide

variable {s : AddressSpace}

theorem overlap_range_iff {c₁ c₂ : AddressClass} :
    overlap (s.range c₁) (s.range c₂) = true ↔ s.Share c₁ c₂ := by
  simp only [overlap, Network.nested_iff, range, Network.holds_truncated, Share]

theorem firstConflict_iff {c₁ c₂ : AddressClass} :
    classPairs.find? (fun (d₁, d₂) => overlap (s.range d₁) (s.range d₂)) = some (c₁, c₂) ↔
      s.FirstConflict c₁ c₂ := by
  rw [find?_eq_some_iff_least earlier_classPairs fun _ _ => Precedes.asymm]
  simp only [overlap_range_iff, mem_classPairs_iff, Prod.forall]
  exact ⟨fun ⟨ordered, shared, first⟩ => ⟨ordered, shared, first⟩,
    fun ⟨ordered, shared, first⟩ => ⟨ordered, shared, first⟩⟩

theorem checkDisjoint_ok_iff :
    s.checkDisjoint = .ok () ↔
      ∀ c₁ c₂, c₁ ≠ c₂ → (s.configured c₁).Disjoint (s.configured c₂) := by
  constructor
  · intro checked c₁ c₂ different a first second
    exact ranges_disjoint checked different a ((Network.holds_truncated _ a).mpr first)
      ((Network.holds_truncated _ a).mpr second)
  · intro apart
    unfold checkDisjoint
    split
    · rename_i c₁ c₂ found
      have conflict := firstConflict_iff.mp found
      have different : c₁ ≠ c₂ := fun same =>
        Nat.ne_of_lt conflict.ordered (congrArg AddressClass.place same)
      exact absurd conflict.shared (Network.disjoint_iff.mp (apart _ _ different))
    · rfl

theorem checkDisjoint_error_iff {e : AllocationError} :
    s.checkDisjoint = .error e ↔ ∃ c₁ c₂, s.FirstConflict c₁ c₂ ∧
      e = .overlappingClasses c₁ c₂ (s.configured c₁).truncated (s.configured c₂).truncated := by
  simp only [← firstConflict_iff]
  unfold checkDisjoint
  split
  · rename_i c₁ c₂ found
    constructor
    · intro failed
      exact ⟨c₁, c₂, found, (Except.error.inj failed).symm⟩
    · rintro ⟨d₁, d₂, other, rfl⟩
      obtain ⟨rfl, rfl⟩ := Prod.mk.inj (Option.some.inj (found.symm.trans other))
      rfl
  · rename_i none
    constructor
    · intro failed
      cases failed
    · rintro ⟨d₁, d₂, found, _⟩
      rw [none] at found
      cases found

/-- The check passes exactly the spaces whose ranges have no address in common, and else reports the
first two classes that share one, with their ranges as they are without host bits. -/
theorem checkDisjoint_exact (s : AddressSpace) :
    (s.checkDisjoint = .ok () ↔
        ∀ c₁ c₂, c₁ ≠ c₂ → (s.configured c₁).Disjoint (s.configured c₂)) ∧
      ∀ e, s.checkDisjoint = .error e ↔ ∃ c₁ c₂, s.FirstConflict c₁ c₂ ∧
        e = .overlappingClasses c₁ c₂ (s.configured c₁).truncated (s.configured c₂).truncated :=
  ⟨checkDisjoint_ok_iff, fun _ => checkDisjoint_error_iff⟩

example : ({ standard with
    identityRange := ⟨.ofOctets 10 4 7 9, 15, by decide⟩
    controlRange := ⟨.ofOctets 10 0 255 7, 8, by decide⟩ } : AddressSpace).checkDisjoint =
      .error (.overlappingClasses .meshBackbone .controlPlane
        ⟨.ofOctets 10 0 0 0, 16, by decide⟩ ⟨.ofOctets 10 0 0 0, 8, by decide⟩) := by decide

end AddressSpace

end RelayMesh
