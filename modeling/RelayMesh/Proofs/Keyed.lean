import Mathlib.Data.List.Flatten
import Mathlib.Data.List.Nodup
import Mathlib.Data.List.Perm.Basic

namespace RelayMesh

variable {α β κ : Type} [BEq κ] [LawfulBEq κ]

def firstBy (key : α → κ) : List α → List α
  | [] => []
  | x :: xs => x :: (firstBy key xs).filter fun y => !(key y == key x)

variable (key : α → κ)

theorem filter_eq_singleton {xs : List α} (distinct : (xs.map key).Nodup) {x : α} (member : x ∈ xs) :
    (xs.filter fun y => key y == key x) = [x] := by
  induction xs with
  | nil => contradiction
  | cons y ys ih =>
    obtain ⟨fresh, distinct⟩ := List.nodup_cons.mp distinct
    rcases List.mem_cons.mp member with rfl | member
    · have others : ∀ z ∈ ys, ¬ (key z == key x) = true := by
        intro z listed hit
        exact fresh (eq_of_beq hit ▸ List.mem_map_of_mem listed)
      rw [List.filter_cons, if_pos (beq_self_eq_true (key x)), List.filter_eq_nil_iff.mpr others]
    · have other : ¬ (key y == key x) = true := by
        intro hit
        exact fresh (eq_of_beq hit ▸ List.mem_map_of_mem member)
      rw [List.filter_cons, if_neg other, ih distinct member]

theorem perm_grouped (keys : List κ) (distinct : keys.Nodup) (xs : List α)
    (covered : ∀ x ∈ xs, key x ∈ keys) :
    (keys.flatMap fun k => xs.filter fun x => key x == k).Perm xs := by
  induction keys generalizing xs with
  | nil =>
    have empty : xs = [] := List.eq_nil_iff_forall_not_mem.mpr fun x hx => by
      simpa using covered x hx
    simp [empty]
  | cons k ks ih =>
    obtain ⟨fresh, distinct⟩ := List.nodup_cons.mp distinct
    have others : (ks.flatMap fun j => xs.filter fun x => key x == j) =
        ks.flatMap fun j => (xs.filter fun x => !(key x == k)).filter fun x => key x == j := by
      apply List.flatMap_congr
      intro j hj
      rw [List.filter_filter]
      apply List.filter_congr
      intro x _
      by_cases hit : key x = j
      · have ne : key x ≠ k := fun same => fresh (same ▸ hit ▸ hj)
        simp [hit, beq_eq_false_iff_ne.mpr (hit ▸ ne)]
      · simp [hit]
    have rest := ih distinct (xs.filter fun x => !(key x == k)) (by
      intro x hx
      obtain ⟨member, other⟩ := List.mem_filter.mp hx
      simpa using (List.mem_cons.mp (covered x member)).resolve_left (by simpa using other))
    rw [List.flatMap_cons, others]
    exact (rest.append_left _).trans (List.filter_append_perm _ xs)

omit [LawfulBEq κ] in
theorem firstBy_subset (xs : List α) : firstBy key xs ⊆ xs := by
  induction xs with
  | nil => exact List.Subset.refl _
  | cons x xs ih =>
    apply List.cons_subset_cons
    exact fun y kept => ih (List.mem_filter.mp kept).1

theorem nodup_map_firstBy (xs : List α) : ((firstBy key xs).map key).Nodup := by
  induction xs with
  | nil => exact List.nodup_nil
  | cons x xs ih =>
    rw [firstBy, List.map_cons, List.nodup_cons]
    constructor
    · intro again
      obtain ⟨y, kept, same⟩ := List.mem_map.mp again
      simpa [same] using (List.mem_filter.mp kept).2
    · exact (List.filter_sublist.map key).nodup ih

omit [LawfulBEq κ] in
theorem firstBy_map (f : β → α) (xs : List β) :
    firstBy key (xs.map f) = (firstBy (fun x => key (f x)) xs).map f := by
  induction xs with
  | nil => rfl
  | cons x xs ih =>
    rw [List.map_cons, firstBy, firstBy, List.map_cons, ih, List.filter_map]
    rfl

theorem find?_firstBy (wanted : κ → Bool) (xs : List α) :
    (firstBy key xs).find? (fun x => wanted (key x)) = xs.find? fun x => wanted (key x) := by
  induction xs with
  | nil => rfl
  | cons x xs ih =>
    rw [firstBy, List.find?_cons, List.find?_cons, ← ih]
    cases hit : wanted (key x) with
    | true => rfl
    | false =>
      change ((firstBy key xs).filter _).find? _ = (firstBy key xs).find? _
      rw [List.find?_filter]
      congr 1
      funext y
      by_cases same : key y = key x
      · simp [same, hit]
      · simp [beq_eq_false_iff_ne.mpr same]

theorem find?_perm {xs ys : List α} (perm : xs.Perm ys) (distinct : (xs.map key).Nodup) (k : κ) :
    xs.find? (fun x => key x == k) = ys.find? fun x => key x == k := by
  cases hit : xs.find? (fun x => key x == k) with
  | none =>
    refine (List.find?_eq_none.mpr fun y member => ?_).symm
    exact List.find?_eq_none.mp hit y (perm.mem_iff.mpr member)
  | some x =>
    have same : key x = k := by simpa using List.find?_some hit
    have single := filter_eq_singleton key ((perm.map key).nodup_iff.mp distinct)
      (perm.mem_iff.mp (List.mem_of_find?_eq_some hit))
    rw [same] at single
    rw [← List.head?_filter, single, List.head?_cons]

end RelayMesh
