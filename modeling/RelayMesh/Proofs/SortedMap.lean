import Mathlib.Data.List.Induction
import Mathlib.Data.List.Nodup
import Mathlib.Data.List.Perm.Basic
import RelayMesh.SortedMap

namespace RelayMesh.SortedMap

variable {κ ν : Type} [Ord κ]

theorem mem_insertEntry {key : κ} {value : ν} {entries : List (κ × ν)} {entry : κ × ν}
    (member : entry ∈ insertEntry key value entries) : entry = (key, value) ∨ entry ∈ entries := by
  induction entries with
  | nil => exact .inl (List.mem_singleton.mp member)
  | cons first rest ih =>
    rw [insertEntry] at member
    split at member
    · exact List.mem_cons.mp member
    · exact (List.mem_cons.mp member).imp_right (List.mem_cons_of_mem first)
    · rcases List.mem_cons.mp member with rfl | member
      · exact .inr List.mem_cons_self
      · exact (ih member).imp_right (List.mem_cons_of_mem first)

theorem ofList_append_singleton (rest : List (κ × ν)) (last : κ × ν) :
    ofList (rest ++ [last]) = (ofList rest).insert last.1 last.2 := by
  rw [ofList, List.foldl_append]
  rfl

theorem mem_of_mem_ofList {entries : List (κ × ν)} :
    ∀ entry ∈ (ofList entries).entries, entry ∈ entries := by
  induction entries using List.reverseRecOn with
  | nil => exact fun _ member => member
  | append_singleton rest last ih =>
    intro entry member
    rw [ofList_append_singleton] at member
    rcases mem_insertEntry member with rfl | member
    · exact List.mem_append_right _ List.mem_cons_self
    · exact List.mem_append_left _ (ih entry member)

theorem mem_keys_insertEntry [Std.LawfulEqOrd κ] {key k : κ} {value : ν} {entries : List (κ × ν)} :
    k ∈ (insertEntry key value entries).map Prod.fst ↔ k = key ∨ k ∈ entries.map Prod.fst := by
  induction entries with
  | nil => simp [insertEntry]
  | cons first rest ih =>
    rw [insertEntry]
    cases order : compare key first.1 with
    | lt => simp
    | eq =>
      have same : key = first.1 := Std.LawfulEqOrd.eq_of_compare order
      simp [same]
    | gt =>
      simp only [List.map_cons, List.mem_cons, ih]
      exact or_left_comm

theorem mem_keys_ofList [Std.LawfulEqOrd κ] {entries : List (κ × ν)} {key : κ} :
    key ∈ (ofList entries).toList.map Prod.fst ↔ key ∈ entries.map Prod.fst := by
  induction entries using List.reverseRecOn with
  | nil => rfl
  | append_singleton rest last ih =>
    have own : key ∈ ((ofList rest).insert last.1 last.2).toList.map Prod.fst ↔
        key = last.1 ∨ key ∈ (ofList rest).toList.map Prod.fst := mem_keys_insertEntry
    rw [ofList_append_singleton, own, ih, List.map_append, List.mem_append]
    simp [or_comm]

section Lookup

variable [Std.LawfulEqOrd κ] [BEq κ] [LawfulBEq κ]

theorem get?_eq_find? (m : SortedMap κ ν) (key : κ) :
    m.get? key = (m.entries.find? fun entry => entry.1 == key).map (·.2) := by
  have same : (fun entry : κ × ν => compare key entry.1 == .eq) = fun entry => entry.1 == key := by
    funext entry
    rw [Bool.eq_iff_iff, beq_iff_eq, beq_iff_eq, Std.LawfulEqOrd.compare_eq_iff_eq]
    exact eq_comm
  rw [get?, same]

theorem get?_insert (m : SortedMap κ ν) (key j : κ) (value : ν) :
    (m.insert key value).get? j = if key == j then some value else m.get? j := by
  obtain ⟨entries⟩ := m
  simp only [get?_eq_find?, insert]
  induction entries with
  | nil => by_cases same : key = j <;> simp [insertEntry, same]
  | cons first rest ih =>
    rw [insertEntry]
    cases order : compare key first.1 with
    | lt => by_cases same : key = j <;> simp [same]
    | eq =>
      obtain rfl : key = first.1 := Std.LawfulEqOrd.eq_of_compare order
      by_cases same : first.1 = j <;> simp [same]
    | gt =>
      have other : ¬ first.1 = key := by
        rintro rfl
        simp at order
      by_cases own : first.1 = j
      · have different : ¬ key = j := fun same => other (own.trans same.symm)
        simp [own, different]
      · simp [own, ih]

theorem get?_ofList (entries : List (κ × ν)) (key : κ) :
    (ofList entries).get? key = (entries.findRev? fun entry => entry.1 == key).map (·.2) := by
  induction entries using List.reverseRecOn with
  | nil => rfl
  | append_singleton rest last ih =>
    rw [ofList_append_singleton, get?_insert, ih, List.findRev?_eq_find?_reverse,
      List.findRev?_eq_find?_reverse, List.reverse_append, List.reverse_singleton,
      List.singleton_append, List.find?_cons]
    cases hit : last.1 == key with
    | true => rfl
    | false => rfl

end Lookup

theorem insertEntry_of_gt {key : κ} {value : ν} {entries : List (κ × ν)}
    (last : ∀ entry ∈ entries, compare key entry.1 = .gt) :
    insertEntry key value entries = entries ++ [(key, value)] := by
  induction entries with
  | nil => rfl
  | cons first rest ih =>
    obtain ⟨own, others⟩ := List.forall_mem_cons.mp last
    simp only [insertEntry, own, ih others, List.cons_append]

theorem toList_ofList {entries : List (κ × ν)}
    (ascending : entries.Pairwise fun first second => compare second.1 first.1 = .gt) :
    (ofList entries).toList = entries := by
  induction entries using List.reverseRecOn with
  | nil => rfl
  | append_singleton rest last ih =>
    obtain ⟨before, _, behind⟩ := List.pairwise_append.mp ascending
    have filled := ih before
    rw [ofList_append_singleton]
    change insertEntry last.1 last.2 (ofList rest).toList = rest ++ [last]
    rw [filled]
    exact insertEntry_of_gt fun entry member => behind entry member last List.mem_cons_self

section Ordered

variable [Std.TransOrd κ]

def Ascending (entries : List (κ × ν)) : Prop :=
  entries.Pairwise fun first second => compare first.1 second.1 = .lt

theorem ascending_insertEntry {key : κ} {value : ν} {entries : List (κ × ν)}
    (ascending : Ascending entries) : Ascending (insertEntry key value entries) := by
  induction entries with
  | nil => exact List.pairwise_singleton _ _
  | cons first rest ih =>
    obtain ⟨below, later⟩ := List.pairwise_cons.mp ascending
    rw [insertEntry]
    cases order : compare key first.1 with
    | lt =>
      refine List.pairwise_cons.mpr ⟨fun entry member => ?_, ascending⟩
      rcases List.mem_cons.mp member with rfl | member
      · exact order
      · exact Std.TransCmp.lt_trans order (below entry member)
    | eq =>
      refine List.pairwise_cons.mpr ⟨fun entry member => ?_, later⟩
      exact Std.TransCmp.lt_of_eq_of_lt order (below entry member)
    | gt =>
      refine List.pairwise_cons.mpr ⟨fun entry member => ?_, ih later⟩
      rcases mem_insertEntry member with rfl | old
      · exact Std.OrientedCmp.gt_iff_lt.mp order
      · exact below entry old

theorem ascending_ofList (entries : List (κ × ν)) : Ascending (ofList entries).toList := by
  induction entries using List.reverseRecOn with
  | nil => exact List.Pairwise.nil
  | append_singleton rest last ih =>
    rw [ofList_append_singleton]
    exact ascending_insertEntry ih

theorem nodup_keys_of_ascending {entries : List (κ × ν)} (ascending : Ascending entries) :
    (entries.map Prod.fst).Nodup := by
  refine List.pairwise_map.mpr (ascending.imp fun {first second} before same => ?_)
  have equal : compare second.1 second.1 = .eq := Std.ReflCmp.compare_self
  rw [same, equal] at before
  contradiction

variable [Std.LawfulEqOrd κ]

theorem insertEntry_comm_of_lt {j k : κ} (order : compare j k = .lt) (x y : ν)
    (entries : List (κ × ν)) :
    insertEntry j x (insertEntry k y entries) = insertEntry k y (insertEntry j x entries) := by
  have back : compare k j = .gt := Std.OrientedCmp.gt_iff_lt.mpr order
  induction entries with
  | nil => simp only [insertEntry, order, back]
  | cons first rest ih =>
    cases low : compare j first.1 with
    | lt => cases high : compare k first.1 <;> simp only [insertEntry, low, high, order, back]
    | eq =>
      obtain rfl : j = first.1 := Std.LawfulEqOrd.eq_of_compare low
      simp only [insertEntry, low, back]
    | gt =>
      have high : compare k first.1 = .gt := Std.TransCmp.gt_trans back low
      simp only [insertEntry, low, high, ih]

theorem insertEntry_comm {j k : κ} (different : j ≠ k) (x y : ν) (entries : List (κ × ν)) :
    insertEntry j x (insertEntry k y entries) = insertEntry k y (insertEntry j x entries) := by
  cases order : compare j k with
  | lt => exact insertEntry_comm_of_lt order x y entries
  | eq => exact absurd (Std.LawfulEqOrd.eq_of_compare order) different
  | gt => exact (insertEntry_comm_of_lt (Std.OrientedCmp.gt_iff_lt.mp order) y x entries).symm

theorem ofList_perm {first second : List (κ × ν)} (distinct : (first.map Prod.fst).Nodup)
    (perm : first.Perm second) : ofList first = ofList second := by
  refine perm.foldl_eq' (fun x memberX y memberY m => ?_) _
  by_cases same : x.1 = y.1
  · rw [List.inj_on_of_nodup_map distinct memberX memberY same]
  · exact congrArg SortedMap.mk (insertEntry_comm (Ne.symm same) y.2 x.2 m.entries)

end Ordered

end RelayMesh.SortedMap
