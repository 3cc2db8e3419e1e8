import RelayMesh.Document.Form
import RelayMesh.Proofs.Checked
import RelayMesh.Proofs.Document.Reading

namespace RelayMesh

open Document hiding read?
open Form (write read?)

namespace Document

theorem writable_int {i : Int} : Writable (.int i) ↔ FitsWord i :=
  ⟨fun | .int fits => fits, .int⟩

theorem writable_float {x : Binary64} : Writable (.float x) ↔ x.isFinite = true :=
  ⟨fun | .float finite => finite, .float⟩

@[simp] theorem writable_text (s : String) : Writable (.text s) := .text s

theorem writable_list {items : List Document} :
    Writable (.list items) ↔ ∀ item ∈ items, item.Writable :=
  ⟨fun | .list each => each, .list⟩

theorem writable_object {fields : List (String × Document)} :
    Writable (.object fields) ↔
      (fields.map (·.1)).Nodup ∧ ∀ field ∈ fields, field.2.Writable :=
  ⟨fun | .object distinct each => ⟨distinct, each⟩, fun both => .object both.1 both.2⟩

theorem lookup_cons (name other : String) (d : Document) (fields : List (String × Document)) :
    lookup name ((other, d) :: fields) = if other = name then some d else lookup name fields := by
  rw [lookup, List.find?_cons]
  by_cases same : other = name
  · rw [if_pos same, beq_iff_eq.mpr same]
    rfl
  · rw [if_neg same, beq_eq_false_iff_ne.mpr same]
    rfl

theorem record?_object (names : List String) (fields : List (String × Document)) :
    record? names (.object fields) = some (names.map fun name => lookup name fields) :=
  rfl

end Document

class ReadsBack (α : Type) [Form α] : Prop where
  read?_write : ∀ a : α, (write a).Writable → read? (write a) = some a

open ReadsBack (read?_write)

/-! ### Single values -/

@[simp] theorem writable_string (s : String) : (write s).Writable := .text s

@[simp] theorem writable_nat {n : Nat} : (write n).Writable ↔ n < UInt64.size := by
  have limit : UInt64.size = 18446744073709551616 := rfl
  change Writable (.int n) ↔ _
  rw [writable_int, FitsWord, limit]
  omega

@[simp] theorem writable_uInt8 (n : UInt8) : (write n).Writable := by
  have := n.toNat_lt
  refine Writable.int ?_
  rw [FitsWord]
  omega

@[simp] theorem writable_binary64 {x : Binary64} : (write x).Writable ↔ x.isFinite = true :=
  writable_float

theorem natBelow?_nat {limit n : Nat} (below : n < limit) : natBelow? limit (.nat n) = some n := by
  rw [Document.nat, natBelow?, if_pos (by omega)]
  rfl

instance : ReadsBack String := ⟨fun _ _ => rfl⟩

instance : ReadsBack Nat := ⟨fun _ writable => natBelow?_nat (writable_nat.mp writable)⟩

instance : ReadsBack UInt8 where
  read?_write n _ := by
    change (natBelow? UInt8.size (.nat n.toNat)).map UInt8.ofNat = some n
    rw [natBelow?_nat n.toNat_lt, Option.map_some, UInt8.ofNat_toNat]

instance : ReadsBack Binary64 := ⟨fun _ _ => rfl⟩

/-! ### Compound values -/

section

variable {α β : Type} [Form α] [Form β]

@[simp] theorem writable_list_write {xs : List α} :
    (write xs).Writable ↔ ∀ a ∈ xs, (write a).Writable := by
  change Writable (.list (xs.map write)) ↔ _
  rw [writable_list]
  exact List.forall_mem_map

@[simp] theorem writable_pair {p : α × β} :
    (write p).Writable ↔ (write p.1).Writable ∧ (write p.2).Writable := by
  change Writable (.list [write p.1, write p.2]) ↔ _
  rw [writable_list, List.forall_mem_cons, List.forall_mem_singleton]

variable [ReadsBack α] [ReadsBack β]

instance : ReadsBack (List α) where
  read?_write xs writable := by
    rw [writable_list_write] at writable
    exact Checked.mapM_map_eq_some fun a member => read?_write a (writable a member)

instance : ReadsBack (α × β) where
  read?_write p writable := by
    rw [writable_pair] at writable
    change (do return (← read? (write p.1), ← read? (write p.2)) : Option (α × β)) = some p
    rw [read?_write p.1 writable.1, read?_write p.2 writable.2]
    rfl

theorem required?_write {a : α} (writable : (write a).Writable) :
    required? (some (write a)) = some a :=
  read?_write a writable

end

@[simp] theorem writable_delay {delay : Option Binary64} :
    (write delay).Writable ↔ ∀ x ∈ delay, x.isFinite = true := by
  cases delay with
  | none => exact ⟨fun _ _ missing => by contradiction, fun _ => .null⟩
  | some x =>
    change Writable (.float x) ↔ _
    rw [writable_float]
    exact ⟨fun finite _ same => Option.mem_some_iff.mp same ▸ finite, fun all => all x rfl⟩

theorem optional?_delay (delay : Option Binary64) :
    optional? (some (write delay)) = some delay := by
  cases delay <;> rfl

end RelayMesh
