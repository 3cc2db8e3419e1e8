import RelayMesh.Delay
import RelayMesh.Proofs.Delay.Values
import RelayMesh.Proofs.SortedMap.Form

namespace RelayMesh

open Document hiding read?
open Form (write read?)
open ReadsBack (read?_write)
open SortedMap (Latest Ascending keyLe ascending_ofList)

namespace Delays

variable {ρ : Type} [Ord ρ]

theorem compare_pair_lt {x y : ρ × ρ} : compare x y = .lt ↔
    compare x.1 y.1 = .lt ∨ compare x.1 y.1 = .eq ∧ compare x.2 y.2 = .lt :=
  Ordering.then_eq_lt

section Written

variable [Form ρ]

theorem writable_delays {d : Delays ρ} :
    (write d).Writable ↔ (∀ x ∈ d.fallback, x.isFinite = true) ∧ (write d.rules).Writable := by
  change Writable (.object [("default", write d.fallback), ("exceptions", write d.rules)]) ↔ _
  simp [writable_object]

theorem read?_delays {fields : List (String × Document)} {fallback : Option Binary64}
    {rules : SortedMap (ρ × ρ) Binary64}
    (default : optional? (lookup "default" fields) = some fallback)
    (exceptions : required? (lookup "exceptions" fields) = some rules) :
    read? (.object fields) = some (Delays.mk fallback rules) := by
  change (record? _ (.object _)).bind _ = _
  simp [record?_object, default, exceptions]

theorem read?_write_delays [Std.TransOrd ρ] [ReadsBack ρ] {d : Delays ρ}
    (ascending : Ascending d.rules.toList) (writable : (write d).Writable) :
    read? (write d) = some d :=
  read?_delays (by simpa [lookup_cons] using optional?_delay d.fallback)
    (SortedMap.read?_write_map ascending (writable_delays.mp writable).2)

theorem ascending_of_read? [Std.TransOrd ρ] {doc : Document} {d : Delays ρ}
    (readable : read? doc = some d) : Ascending d.rules.toList := by
  obtain ⟨fields, _, parts⟩ := Option.bind_eq_some_iff.mp readable
  split at parts
  · obtain ⟨fallback, _, parts⟩ := Option.bind_eq_some_iff.mp parts
    obtain ⟨rules, required, same⟩ := Option.bind_eq_some_iff.mp parts
    obtain ⟨_, _, listed⟩ := Option.bind_eq_some_iff.mp required
    obtain rfl := Option.some.inj same
    exact SortedMap.ascending_of_read? listed
  · contradiction

end Written

/-- The default and the delays of the rules that count are finite, and their ends have a text. -/
def WritableRules [Form ρ] (fallback : Option Binary64) (rules : List ((ρ × ρ) × Binary64)) :
    Prop :=
  (∀ x ∈ fallback, x.isFinite = true) ∧ ∀ a b delay, Latest rules (a, b) delay →
    (write a).Writable ∧ (write b).Writable ∧ delay.isFinite = true

section Filled

variable [Std.TransOrd ρ] [Std.LawfulEqOrd ρ] {fallback : Option Binary64}
  {rules : List ((ρ × ρ) × Binary64)}

omit [Std.LawfulEqOrd ρ] in
theorem ascending_filled : Ascending (filled fallback rules).rules.toList := by
  rw [filled_eq]
  exact ascending_ofList rules

theorem writable_filled [Form ρ] (writable : WritableRules fallback rules) :
    (write (filled fallback rules)).Writable := by
  obtain ⟨default, each⟩ := writable
  rw [filled_eq, writable_delays]
  refine ⟨default, SortedMap.writable_ofList.mpr fun (a, b) delay latest => ?_⟩
  obtain ⟨first, second, finite⟩ := each a b delay latest
  exact ⟨writable_pair.mpr ⟨first, second⟩, writable_binary64.mpr finite⟩

end Filled

variable (ρ) in
/-- The forms of delays are canonical: the default stands beside the rules, which are a map. -/
structure FormsCanonical [Form ρ] : Prop where
  built (fallback : Option Binary64) (rules : List ((ρ × ρ) × Binary64)) :
    (∀ delay, (filled fallback rules).withFallback delay = filled (some delay) rules) ∧
    ∀ a b delay, (filled fallback rules).withRule a b delay =
      filled fallback (rules ++ [((a, b), delay)])
  found {fallback : Option Binary64} {rules : List ((ρ × ρ) × Binary64)} :
    (filled fallback rules).fallback = fallback ∧
    ∀ key delay, (filled fallback rules).rules.get? key = some delay ↔ Latest rules key delay
  /-- The rules stand by their first ends, and then by their second ones. -/
  listed (fallback : Option Binary64) (rules : List ((ρ × ρ) × Binary64)) :
    ∃ kept : List ((ρ × ρ) × Binary64),
      write (filled fallback rules) = .object [("default", write fallback),
        ("exceptions", .list (kept.map fun rule => .object
          [("key", .list [write rule.1.1, write rule.1.2]), ("val", .float rule.2)]))] ∧
      (kept.Pairwise fun x y => compare x.1.1 y.1.1 = .lt ∨
        compare x.1.1 y.1.1 = .eq ∧ compare x.1.2 y.1.2 = .lt) ∧
      ∀ key delay, (key, delay) ∈ kept ↔ Latest rules key delay
  determined {fallback : Option Binary64} {first second : List ((ρ × ρ) × Binary64)}
    (same : ∀ key, (filled fallback first).rules.get? key =
      (filled fallback second).rules.get? key) :
    write (filled fallback first) = write (filled fallback second)
  visited {fallback : Option Binary64} {rules visit : List ((ρ × ρ) × Binary64)}
    (perm : visit.Perm (filled fallback rules).rules.toList) :
    .object [("default", write fallback),
        ("exceptions", .list ((visit.mergeSort keyLe).map SortedMap.writeEntry))] =
      write (filled fallback rules)
  readsBack {fallback : Option Binary64} {rules : List ((ρ × ρ) × Binary64)}
    (writable : WritableRules fallback rules) :
    read? (write (filled fallback rules)) = some (filled fallback rules) ∧
      (Document.read? (write (filled fallback rules)).prettyText).bind read? =
        some (filled fallback rules)
  anyRules {fields : List (String × Document)} {fallback : Option Binary64}
    {items : List Document} {rules : List ((ρ × ρ) × Binary64)}
    (default : optional? (lookup "default" fields) = some fallback)
    (exceptions : lookup "exceptions" fields = some (.list items))
    (each : List.Forall₂ (fun item rule => SortedMap.readEntry? item = some rule) items rules) :
    read? (.object fields) = some (filled fallback rules)
  idempotent {d written : Document}
    (once : rewritten? (Delays ρ) d = some written) (writable : written.Writable) :
    rewritten? (Delays ρ) written = some written

theorem formsCanonical [Std.TransOrd ρ] [Std.LawfulEqOrd ρ] [Form ρ] [ReadsBack ρ] :
    FormsCanonical ρ where
  built fallback rules := by
    refine ⟨fun delay => ?_, fun a b delay => ?_⟩
    · rw [filled_eq, filled_eq]
      rfl
    · rw [filled, filled, List.foldl_append]
      rfl
  found {fallback rules} := by
    rw [filled_eq fallback rules]
    exact ⟨rfl, fun _ _ => SortedMap.get?_ofList_iff⟩
  listed fallback rules := by
    obtain ⟨kept, form, ascending, members⟩ := SortedMap.formsCanonical.listed rules
    refine ⟨kept, ?_, ascending.imp fun order => compare_pair_lt.mp order, members⟩
    rw [filled_eq]
    change Document.object [("default", write fallback), ("exceptions", write _)] = _
    rw [form]
    rfl
  determined {fallback first second} same := by
    rw [filled_eq, filled_eq] at same ⊢
    change Document.object [("default", write fallback), ("exceptions", write _)] = _
    rw [SortedMap.formsCanonical.determined same]
    rfl
  visited {fallback rules visit} perm := by
    rw [filled_eq fallback rules] at perm ⊢
    rw [SortedMap.formsCanonical.visited perm]
    rfl
  readsBack writable := by
    have form := writable_filled writable
    have readable := read?_write_delays ascending_filled form
    refine ⟨readable, ?_⟩
    rw [read?_prettyText form, Option.bind_some, readable]
  anyRules {_ fallback _ rules} default exceptions each := by
    rw [filled_eq fallback rules]
    refine read?_delays default ?_
    rw [exceptions]
    exact SortedMap.read?_entries each
  idempotent once writable := by
    obtain ⟨d, readable, rfl⟩ := Option.map_eq_some_iff.mp once
    rw [rewritten?, read?_write_delays (ascending_of_read? readable) writable, Option.map_some]

end Delays

/-- Maps and delays have canonical forms, for all keys and ends that are in order. -/
theorem forms_canonical {κ ν ρ : Type} [Ord κ] [Std.TransOrd κ] [Std.LawfulEqOrd κ] [Form κ]
    [ReadsBack κ] [Form ν] [ReadsBack ν] [Ord ρ] [Std.TransOrd ρ] [Std.LawfulEqOrd ρ] [Form ρ]
    [ReadsBack ρ] : SortedMap.FormsCanonical κ ν ∧ Delays.FormsCanonical ρ :=
  ⟨SortedMap.formsCanonical, Delays.formsCanonical⟩

def ruleForm (a b : String) (delay : Document) : Document :=
  .object [("key", .list [.text a, .text b]), ("val", delay)]

def shuffledRules : List (String × Document) :=
  [("exceptions", .list [ruleForm "d" "c" (.int 10), ruleForm "a" "b" (.float ⟨0x3FF8000000000000⟩),
    ruleForm "d" "c" (.float ⟨0x4000000000000000⟩)])]

theorem forms_canonical_shuffled :
    rewritten? (Delays String) (.object shuffledRules) = some (.object [("default", .null),
      ("exceptions", .list [ruleForm "a" "b" (.float ⟨0x3FF8000000000000⟩),
        ruleForm "d" "c" (.float ⟨0x4000000000000000⟩)])]) := by
  have both : SortedMap.FormsCanonical (String × String) Binary64 ∧ Delays.FormsCanonical String :=
    forms_canonical
  have reading : read? (.object shuffledRules) = some (Delays.filled none
      [(("d", "c"), .ofInt 10), (("a", "b"), ⟨0x3FF8000000000000⟩),
        (("d", "c"), ⟨0x4000000000000000⟩)]) :=
    both.2.anyRules rfl rfl (.cons rfl (.cons rfl (.cons rfl .nil)))
  exact congrArg (Option.map write) reading

end RelayMesh
