import RelayMesh.Proofs.Checked
import RelayMesh.Proofs.Document.Form
import RelayMesh.Proofs.Keyed
import RelayMesh.Proofs.SortedMap

/-! Maps and their written forms. A map is the same whatever the order in which it was filled, and
its form lists the entries by ascending keys, so that equal maps have equal forms in whatever order
their entries are visited. Entries in any order are read, of which the last one with a key counts. -/

namespace RelayMesh

open Document hiding read?
open Form (write read?)
open ReadsBack (read?_write)

def rewritten? (α : Type) [Form α] (d : Document) : Option Document :=
  (read? d : Option α).map write

namespace SortedMap

variable {κ ν : Type} [Ord κ]

def Latest (entries : List (κ × ν)) (key : κ) (value : ν) : Prop :=
  ∃ before after, entries = before ++ (key, value) :: after ∧ key ∉ after.map Prod.fst

def keyLe (x y : κ × ν) : Bool :=
  (compare x.1 y.1).isLE

section Ordered

variable [Std.TransOrd κ] [Std.LawfulEqOrd κ]

omit [Std.TransOrd κ] in
theorem get?_ofList_iff {entries : List (κ × ν)} {key : κ} {value : ν} :
    (ofList entries).get? key = some value ↔ Latest entries key value := by
  classical
  rw [get?_ofList, List.findRev?_eq_find?_reverse, Option.map_eq_some_iff, Latest]
  simp only [List.find?_eq_some_iff_append]
  constructor
  · rintro ⟨⟨own, _⟩, ⟨hit, behind, front, split, missed⟩, rfl⟩
    obtain rfl : own = key := by simpa using hit
    refine ⟨front.reverse, behind.reverse, ?_, fun again => ?_⟩
    · simpa using congrArg List.reverse split
    · obtain ⟨entry, member, same⟩ := List.mem_map.mp again
      simpa [same] using missed entry (List.mem_reverse.mp member)
  · rintro ⟨front, behind, rfl, fresh⟩
    refine ⟨(key, value), ⟨by simp, behind.reverse, front.reverse, by simp, ?_⟩, rfl⟩
    intro entry member
    have other : entry.1 ≠ key := fun same =>
      fresh (same ▸ List.mem_map_of_mem (List.mem_reverse.mp member))
    simpa using other

theorem mem_toList_iff {m : SortedMap κ ν} (ascending : Ascending m.toList) {key : κ} {value : ν} :
    (key, value) ∈ m.toList ↔ m.get? key = some value := by
  classical
  rw [get?_eq_find?, Option.map_eq_some_iff]
  constructor
  · intro member
    have single := filter_eq_singleton Prod.fst (nodup_keys_of_ascending ascending) member
    refine ⟨(key, value), ?_, rfl⟩
    change m.toList.find? (fun entry => entry.1 == key) = _
    rw [← List.head?_filter, single, List.head?_cons]
  · rintro ⟨⟨own, _⟩, found, rfl⟩
    obtain rfl : own = key := by simpa using List.find?_some found
    exact List.mem_of_find?_eq_some found

omit [Std.LawfulEqOrd κ] in
theorem keyLe_total (x y : κ × ν) : (keyLe x y || keyLe y x) = true := by
  have turned : compare y.1 x.1 = (compare x.1 y.1).swap := Std.OrientedCmp.eq_swap
  rw [keyLe, keyLe, turned]
  cases compare x.1 y.1 <;> rfl

theorem eq_of_perm {xs ys : List (κ × ν)} (ascending : Ascending ys)
    (sorted : xs.Pairwise fun x y => keyLe x y = true) (perm : xs.Perm ys) : xs = ys := by
  have distinct := nodup_keys_of_ascending ascending
  refine perm.eq_of_pairwise (fun x y memberX memberY before after => ?_) sorted
    (ascending.imp fun order => Ordering.isLE_of_eq_lt order)
  have same : compare x.1 y.1 = .eq := Std.OrientedCmp.isLE_antisymm before after
  exact List.inj_on_of_nodup_map distinct (perm.mem_iff.mp memberX) memberY
    (Std.LawfulEqOrd.eq_of_compare same)

/-- Sorted by their keys, the entries of a map give its list, in whatever order they are visited. -/
theorem mergeSort_of_perm {m : SortedMap κ ν} (ascending : Ascending m.toList)
    {visited : List (κ × ν)} (perm : visited.Perm m.toList) : visited.mergeSort keyLe = m.toList :=
  eq_of_perm ascending
    (List.pairwise_mergeSort (fun _ _ _ => Std.TransCmp.isLE_trans) keyLe_total visited)
    ((List.mergeSort_perm visited keyLe).trans perm)

theorem eq_of_get? {m n : SortedMap κ ν} (first : Ascending m.toList) (second : Ascending n.toList)
    (same : ∀ key, m.get? key = n.get? key) : m = n := by
  have nodup {m : SortedMap κ ν} (ascending : Ascending m.toList) : m.toList.Nodup :=
    (nodup_keys_of_ascending ascending).of_map Prod.fst
  have perm : m.toList.Perm n.toList := by
    rw [List.perm_ext_iff_of_nodup (nodup first) (nodup second)]
    rintro ⟨key, value⟩
    rw [mem_toList_iff first, mem_toList_iff second, same]
  have entries : m.toList = n.toList :=
    eq_of_perm second (first.imp fun order => Ordering.isLE_of_eq_lt order) perm
  exact congrArg SortedMap.mk entries

end Ordered

section Written

variable [Form κ] [Form ν]

theorem write_map (m : SortedMap κ ν) :
    write m = .list (m.toList.map fun entry =>
      .object [("key", write entry.1), ("val", write entry.2)]) := rfl

def WritableEntry (entry : κ × ν) : Prop :=
  (write entry.1).Writable ∧ (write entry.2).Writable

omit [Ord κ] in
theorem writable_entry {entry : κ × ν} : (writeEntry entry).Writable ↔ WritableEntry entry := by
  change Writable (.object [("key", write entry.1), ("val", write entry.2)]) ↔ _
  simp [writable_object, WritableEntry]

theorem writable_map {m : SortedMap κ ν} :
    (write m).Writable ↔ ∀ entry ∈ m.toList, WritableEntry entry := by
  change Writable (.list (m.toList.map writeEntry)) ↔ _
  rw [writable_list, List.forall_mem_map]
  simp only [writable_entry]

theorem writable_ofList [Std.TransOrd κ] [Std.LawfulEqOrd κ] {entries : List (κ × ν)} :
    (write (ofList entries)).Writable ↔
      ∀ key value, Latest entries key value → WritableEntry (key, value) := by
  simp only [writable_map, Prod.forall, mem_toList_iff (ascending_ofList entries), get?_ofList_iff]

omit [Ord κ] in
theorem readEntry?_writeEntry [ReadsBack κ] [ReadsBack ν] {entry : κ × ν}
    (writable : WritableEntry entry) : readEntry? (writeEntry entry) = some entry := by
  rw [ readEntry?, writeEntry, record?_object]
  simp [lookup_cons, required?, read?_write _ writable.1, read?_write _ writable.2]

theorem read?_entries {items : List Document} {entries : List (κ × ν)}
    (each : List.Forall₂ (fun item entry => readEntry? item = some entry) items entries) :
    read? (.list items) = some (ofList entries) := by
  change (items.mapM readEntry?).map ofList = _
  rw [Checked.mapM_eq_some_iff.mpr each.flip, Option.map_some]

theorem read?_entries_none {items : List Document} :
    (read? (.list items) : Option (SortedMap κ ν)) = none ↔
      ∃ item ∈ items, ( readEntry? item : Option (κ × ν)) = none := by
  change (items.mapM readEntry?).map ofList = none ↔ _
  rw [Option.map_eq_none_iff, Checked.mapM_eq_none_iff]

variable [ReadsBack κ] [ReadsBack ν] [Std.TransOrd κ]

theorem read?_write_map {m : SortedMap κ ν} (ascending : Ascending m.toList)
    (writable : (write m).Writable) : read? (write m) = some m := by
  rw [writable_map] at writable
  have each : List.Forall₂ (fun item entry => readEntry? item = some entry)
      (m.toList.map writeEntry) m.toList :=
    List.forall₂_map_left_iff.mpr (List.forall₂_same.mpr fun entry member =>
      readEntry?_writeEntry (writable entry member))
  have sorted : (ofList m.toList).toList = m.toList :=
    toList_ofList (ascending.imp fun order => Std.OrientedCmp.gt_iff_lt.mpr order)
  exact (read?_entries each).trans (congrArg some (congrArg SortedMap.mk sorted))

theorem read?_text {m : SortedMap κ ν} (ascending : Ascending m.toList)
    (writable : (write m).Writable) : (Document.read? (write m).prettyText).bind read? = some m := by
  rw [read?_prettyText writable, Option.bind_some, read?_write_map ascending writable]

end Written

variable (κ ν) in
/-- The forms of maps are canonical: they depend on the lookups only, and a map is read from any
list of entries. -/
structure FormsCanonical [Form κ] [Form ν] : Prop where
  found {entries : List (κ × ν)} {key : κ} {value : ν} :
    (ofList entries).get? key = some value ↔ Latest entries key value
  listed (entries : List (κ × ν)) : ∃ kept : List (κ × ν),
    write (ofList entries) = .list (kept.map fun entry =>
      .object [("key", write entry.1), ("val", write entry.2)]) ∧
    (kept.Pairwise fun x y => compare x.1 y.1 = .lt) ∧
    ∀ key value, (key, value) ∈ kept ↔ Latest entries key value
  determined {first second : List (κ × ν)}
    (same : ∀ key, (ofList first).get? key = (ofList second).get? key) :
    write (ofList first) = write (ofList second)
  /-- Neither does the order in which their entries are visited before they are sorted. -/
  visited {entries visit : List (κ × ν)} (perm : visit.Perm (ofList entries).toList) :
    .list ((visit.mergeSort keyLe).map writeEntry) = write (ofList entries)
  readsBack {entries : List (κ × ν)}
    (writable : ∀ key value, Latest entries key value → WritableEntry (key, value)) :
    read? (write (ofList entries)) = some (ofList entries) ∧
      (Document.read? (write (ofList entries)).prettyText).bind read? = some (ofList entries)
  anyEntries {items : List Document} {entries : List (κ × ν)}
    (each : List.Forall₂ (fun item entry => readEntry? item = some entry) items entries) :
    read? (.list items) = some (ofList entries)
  refused {items : List Document} : (read? (.list items) : Option (SortedMap κ ν)) = none ↔
    ∃ item ∈ items, ( readEntry? item : Option (κ × ν)) = none
  idempotent {d written : Document} (once : rewritten? (SortedMap κ ν) d = some written)
    (writable : written.Writable) : rewritten? (SortedMap κ ν) written = some written

theorem ascending_of_read? [Form κ] [Form ν] [Std.TransOrd κ] {d : Document} {m : SortedMap κ ν}
    (readable : read? d = some m) : Ascending m.toList := by
  cases d with
  | list items =>
    obtain ⟨entries, _, rfl⟩ := Option.map_eq_some_iff.mp readable
    exact ascending_ofList entries
  | _ => contradiction

theorem formsCanonical [Std.TransOrd κ] [Std.LawfulEqOrd κ] [Form κ] [ReadsBack κ] [Form ν]
    [ReadsBack ν] : FormsCanonical κ ν where
  found := get?_ofList_iff
  listed entries := ⟨(ofList entries).toList, write_map _, ascending_ofList entries,
    fun _ _ => (mem_toList_iff (ascending_ofList entries)).trans get?_ofList_iff⟩
  determined same := by rw [eq_of_get? (ascending_ofList _) (ascending_ofList _) same]
  visited perm := by
    rw [mergeSort_of_perm (ascending_ofList _) perm]
    rfl
  readsBack writable :=
    ⟨read?_write_map (ascending_ofList _) (writable_ofList.mpr writable),
      read?_text (ascending_ofList _) (writable_ofList.mpr writable)⟩
  anyEntries := read?_entries
  refused := read?_entries_none
  idempotent once writable := by
    obtain ⟨m, readable, rfl⟩ := Option.map_eq_some_iff.mp once
    rw [rewritten?, read?_write_map (ascending_of_read? readable) writable, Option.map_some]

end SortedMap

end RelayMesh
