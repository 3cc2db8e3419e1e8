import Mathlib.Data.List.Forall2

namespace RelayMesh.Checked

variable {ε δ α β γ : Type}

theorem bind_ok {x : Except ε α} {f : α → Except ε β} {b : β} :
    (x >>= f) = .ok b ↔ ∃ a, x = .ok a ∧ f a = .ok b := by
  cases x with
  | error e => simp [bind, Except.bind]
  | ok a => simp [bind, Except.bind]

theorem bind_error {x : Except ε α} {f : α → Except ε β} {e : ε} :
    (x >>= f) = .error e ↔ x = .error e ∨ ∃ a, x = .ok a ∧ f a = .error e := by
  cases x with
  | error d => simp [bind, Except.bind]
  | ok a => simp [bind, Except.bind]

theorem pure_ok {a b : α} : (pure a : Except ε α) = .ok b ↔ a = b := by
  simp [pure, Except.pure]

theorem exists_error_iff {x : Except ε α} : (∃ e, x = .error e) ↔ ¬ ∃ a, x = .ok a := by
  cases x with
  | error e => simp
  | ok a => simp

theorem mapError_ok {x : Except ε α} {f : ε → δ} {a : α} :
    x.mapError f = .ok a ↔ x = .ok a := by
  cases x with
  | error e => simp [Except.mapError]
  | ok b => simp [Except.mapError]

theorem mapError_error {x : Except ε α} {f : ε → δ} {d : δ} :
    x.mapError f = .error d ↔ ∃ e, x = .error e ∧ f e = d := by
  cases x with
  | error e => simp [Except.mapError]
  | ok b => simp [Except.mapError]

theorem map_ok {x : Except ε α} {f : α → β} {b : β} :
    x.map f = .ok b ↔ ∃ a, x = .ok a ∧ f a = b := by
  cases x with
  | error e => simp [Except.map]
  | ok a => simp [Except.map]

theorem map_error {x : Except ε α} {f : α → β} {e : ε} :
    x.map f = .error e ↔ x = .error e := by
  cases x with
  | error d => simp [Except.map]
  | ok a => simp [Except.map]

theorem mapM_ok {f : α → Except ε β} {xs : List α} {ys : List β} :
    xs.mapM f = .ok ys ↔ List.Forall₂ (fun x y => f x = .ok y) xs ys := by
  induction xs generalizing ys with
  | nil =>
    rw [List.mapM_nil, pure_ok, List.forall₂_nil_left_iff]
    exact eq_comm
  | cons x xs ih =>
    simp only [List.mapM_cons, bind_ok, pure_ok, ih]
    constructor
    · rintro ⟨y, hy, rest, hrest, rfl⟩
      exact .cons hy hrest
    · intro h
      cases h with
      | cons hy hrest => exact ⟨_, hy, _, hrest, rfl⟩

theorem mapM_congr {f g : α → Except ε β} {xs : List α} (same : ∀ x ∈ xs, f x = g x) :
    xs.mapM f = xs.mapM g := by
  induction xs with
  | nil => rfl
  | cons x xs ih =>
    obtain ⟨own, others⟩ := List.forall_mem_cons.mp same
    rw [List.mapM_cons, List.mapM_cons, own, ih others]

/-- Of lists that are related place by place, a member of the second has its counterpart in the
first. -/
theorem exists_of_forall₂ {R : α → β → Prop} {xs : List α} {ys : List β}
    (related : List.Forall₂ R xs ys) {y : β} (member : y ∈ ys) : ∃ x ∈ xs, R x y := by
  induction related with
  | nil => simp at member
  | cons own _ ih =>
    rcases List.mem_cons.mp member with rfl | member
    · exact ⟨_, List.mem_cons_self, own⟩
    · obtain ⟨x, listed, other⟩ := ih member
      exact ⟨x, List.mem_cons_of_mem _ listed, other⟩

theorem forall₂_comp {R : α → β → Prop} {S : β → γ → Prop} {xs : List α} {ys : List β}
    {zs : List γ} (first : List.Forall₂ R xs ys) (second : List.Forall₂ S ys zs) :
    List.Forall₂ (fun x z => ∃ y ∈ ys, R x y ∧ S y z) xs zs := by
  induction first generalizing zs with
  | nil =>
    cases second
    exact .nil
  | cons own _ ih =>
    cases second with
    | cons other rest =>
      refine .cons ⟨_, List.mem_cons_self, own, other⟩ ((ih rest).imp ?_)
      rintro x z ⟨y, member, both⟩
      exact ⟨y, List.mem_cons_of_mem _ member, both⟩

theorem forall₂_carry {R : α → β → Prop} {P : α → γ → Prop} {Q : β → γ → Prop}
    (carry : ∀ x y z, R x y → P x z → Q y z) {xs : List α} {ys : List β} {zs : List γ}
    (related : List.Forall₂ R xs ys) (each : List.Forall₂ P xs zs) : List.Forall₂ Q ys zs := by
  induction related generalizing zs with
  | nil =>
    cases each
    exact .nil
  | cons own _ ih =>
    cases each with
    | cons first rest => exact .cons (carry _ _ _ own first) (ih rest)

theorem mem_of_mapM_ok {f : α → Except ε β} {xs : List α} {ys : List β}
    (done : xs.mapM f = .ok ys) {y : β} (member : y ∈ ys) : ∃ x ∈ xs, f x = .ok y :=
  exists_of_forall₂ (mapM_ok.mp done) member

theorem exists_of_mapM_ok {f : α → Except ε β} {xs : List α} {ys : List β}
    (done : xs.mapM f = .ok ys) {x : α} (member : x ∈ xs) : ∃ y ∈ ys, f x = .ok y := by
  have related : List.Forall₂ (fun y x => f x = .ok y) ys xs := List.Forall₂.flip (mapM_ok.mp done)
  exact exists_of_forall₂ related member

theorem mapM_ok_of_forall {f : α → Except ε β} {xs : List α}
    (each : ∀ x ∈ xs, ∃ y, f x = .ok y) : ∃ ys, xs.mapM f = .ok ys := by
  induction xs with
  | nil => exact ⟨[], rfl⟩
  | cons x xs ih =>
    obtain ⟨y, hy⟩ := each x List.mem_cons_self
    obtain ⟨ys, hys⟩ := ih fun z member => each z (List.mem_cons_of_mem x member)
    exact ⟨y :: ys, mapM_ok.mpr (.cons hy (mapM_ok.mp hys))⟩

theorem mapM_zipIdx_ok {f : α × Nat → Except ε β} {R : α → β → Prop} {xs : List α} {ys : List β}
    (each : ∀ x i y, f (x, i) = .ok y ↔ R x y) :
    xs.zipIdx.mapM f = .ok ys ↔ List.Forall₂ R xs ys := by
  conv_rhs => rw [← List.zipIdx_map_fst 0 xs, List.forall₂_map_left_iff]
  simp only [mapM_ok, each]

theorem mapM_error {f : α → Except ε β} {xs : List α} {e : ε} :
    xs.mapM f = .error e ↔ ∃ before x after, xs = before ++ x :: after ∧
      (∀ y ∈ before, ∃ b, f y = .ok b) ∧ f x = .error e := by
  induction xs with
  | nil =>
    constructor
    · intro failed
      cases failed
    · rintro ⟨before, x, after, split, _⟩
      cases before <;> contradiction
  | cons z zs ih =>
    rw [List.mapM_cons, bind_error]
    constructor
    · rintro (failed | ⟨b, passed, failed⟩)
      · exact ⟨[], z, zs, rfl, by simp, failed⟩
      · rcases bind_error.mp failed with failed | ⟨bs, _, impossible⟩
        · obtain ⟨before, x, after, rfl, each, here⟩ := ih.mp failed
          refine ⟨z :: before, x, after, rfl, ?_, here⟩
          intro y member
          rcases List.mem_cons.mp member with rfl | member
          · exact ⟨b, passed⟩
          · exact each y member
        · cases impossible
    · rintro ⟨before, x, after, split, each, here⟩
      cases before with
      | nil =>
        obtain ⟨rfl, rfl⟩ := List.cons.inj split
        exact .inl here
      | cons y before =>
        obtain ⟨rfl, rfl⟩ := List.cons.inj split
        obtain ⟨b, passed⟩ := each z List.mem_cons_self
        have later := ih.mpr ⟨before, x, after, rfl,
          fun y member => each y (List.mem_cons_of_mem z member), here⟩
        exact .inr ⟨b, passed, bind_error.mpr (.inl later)⟩

theorem mapM_error_of_only {f : α → Except ε β} {xs : List α} {e : ε}
    (only : ∀ x d, f x = .error d → d = e) {x : α} (member : x ∈ xs)
    (failed : ∀ y, f x ≠ .ok y) : xs.mapM f = .error e := by
  obtain ⟨d, stopped⟩ := exists_error_iff.mpr fun ⟨ys, done⟩ =>
    have ⟨y, _, passed⟩ := exists_of_mapM_ok done member
    failed y passed
  obtain ⟨_, z, _, _, _, here⟩ := mapM_error.mp stopped
  rw [stopped, only z d here]

theorem map_of_forall₂ {R : α → β → Prop} {xs : List α} {ys : List β}
    (related : List.Forall₂ R xs ys) (g : β → γ) (h : α → γ)
    (agree : ∀ x y, R x y → g y = h x) : ys.map g = xs.map h := by
  induction related with
  | nil => rfl
  | cons own _ ih => rw [List.map_cons, List.map_cons, agree _ _ own, ih]

theorem find?_of_forall₂ {R : α → β → Prop} {xs : List α} {ys : List β}
    (related : List.Forall₂ R xs ys) {q : β → Bool} {p : α → Bool} {g : β → γ} {h : α → γ}
    (agree : ∀ x y, R x y → q y = p x ∧ g y = h x) : (ys.find? q).map g = (xs.find? p).map h := by
  induction related with
  | nil => rfl
  | cons own _ ih =>
    obtain ⟨test, result⟩ := agree _ _ own
    rw [List.find?_cons, List.find?_cons, test]
    split
    · rw [Option.map_some, Option.map_some, result]
    · exact ih

theorem findRev?_of_forall₂ {R : α → β → Prop} {xs : List α} {ys : List β}
    (related : List.Forall₂ R xs ys) {q : β → Bool} {p : α → Bool} {g : β → γ} {h : α → γ}
    (agree : ∀ x y, R x y → q y = p x ∧ g y = h x) :
    (ys.findRev? q).map g = (xs.findRev? p).map h := by
  rw [List.findRev?_eq_find?_reverse, List.findRev?_eq_find?_reverse]
  exact find?_of_forall₂ (List.rel_reverse related) agree

theorem map_of_mapM_ok {f : α → Except ε β} {xs : List α} {ys : List β}
    (done : xs.mapM f = .ok ys) (g : β → γ) (h : α → γ)
    (agree : ∀ x y, f x = .ok y → g y = h x) : ys.map g = xs.map h :=
  map_of_forall₂ (mapM_ok.mp done) g h agree

theorem mapM_eq_some_iff {f : β → Option α} {xs : List α} {ys : List β} :
    ys.mapM f = some xs ↔ List.Forall₂ (fun x y => f y = some x) xs ys := by
  constructor
  · intro read
    induction ys generalizing xs with
    | nil =>
      cases read
      exact .nil
    | cons y ys ih =>
      rw [List.mapM_cons] at read
      obtain ⟨first, of_first, read⟩ := Option.bind_eq_some_iff.mp read
      obtain ⟨others, of_others, read⟩ := Option.bind_eq_some_iff.mp read
      cases read
      exact .cons of_first (ih of_others)
  · intro each
    induction each with
    | nil => rfl
    | cons first _ ih =>
      rw [List.mapM_cons, first, ih]
      rfl

theorem mapM_map_eq_some {f : β → Option α} {g : α → β} {xs : List α}
    (each : ∀ a ∈ xs, f (g a) = some a) : (xs.map g).mapM f = some xs :=
  mapM_eq_some_iff.mpr (List.forall₂_map_right_iff.mpr (List.forall₂_same.mpr each))

theorem mapM_eq_none_iff {f : α → Option β} {xs : List α} :
    xs.mapM f = none ↔ ∃ x ∈ xs, f x = none := by
  induction xs with
  | nil =>
    constructor
    · intro failed
      cases failed
    · rintro ⟨x, member, _⟩
      cases member
  | cons x xs ih =>
    simp only [List.mapM_cons, List.mem_cons, exists_eq_or_imp, ← ih]
    cases f x with
    | none => simp
    | some y => cases xs.mapM f <;> simp

end RelayMesh.Checked
