namespace RelayMesh

inductive InWords (α : Type) where
  | value (a : α)
  | absent
  /-- What an overflow leaves is no result at all, so nothing may depend on it. -/
  | overflow
deriving DecidableEq

namespace InWords

instance : Monad InWords where
  pure := value
  bind
    | value a, next => next a
    | absent, _ => absent
    | overflow, _ => overflow

variable {α β : Type}

@[simp] theorem value_bind (a : α) (next : α → InWords β) : (value a >>= next) = next a :=
  rfl

@[simp] theorem absent_bind (next : α → InWords β) : ((absent : InWords α) >>= next) = absent :=
  rfl

def ofOption : Option α → InWords α
  | some a => value a
  | none => absent

@[simp] theorem ofOption_some (a : α) : ofOption (some a) = value a :=
  rfl

@[simp] theorem ofOption_none : ofOption (none : Option α) = absent :=
  rfl

theorem exists_of_ofOption_bind {o : Option α} {next : α → InWords β}
    (present : (ofOption o >>= next) ≠ absent) : ∃ a, o = some a ∧ next a ≠ absent := by
  cases o with
  | none => exact absurd rfl present
  | some a => exact ⟨a, rfl, present⟩

def value? : InWords α → Option α
  | value a => some a
  | absent | overflow => none

def checked (n : Nat) : InWords Nat :=
  if n < UInt64.size then value n else absent

def held (n : Nat) : InWords Nat :=
  if n < UInt64.size then value n else overflow

def difference (a b : Nat) : InWords Nat :=
  if b ≤ a then value (a - b) else overflow

theorem checked_of_lt {n : Nat} (fits : n < UInt64.size) : checked n = value n :=
  if_pos fits

theorem held_of_lt {n : Nat} (fits : n < UInt64.size) : held n = value n :=
  if_pos fits

theorem difference_of_le {a b : Nat} (le : b ≤ a) : difference a b = value (a - b) :=
  if_pos le

theorem checked_ne_overflow (n : Nat) : checked n ≠ overflow := by
  unfold checked
  split <;> simp

theorem value?_checked_eq_some_iff {n v : Nat} :
    (checked n).value? = some v ↔ n = v ∧ n < UInt64.size := by
  unfold checked
  split
  · rename_i fits
    exact Option.some_inj.trans (iff_self_and.mpr fun _ => fits)
  · rename_i large
    exact iff_of_false (Option.some_ne_none v).symm fun ⟨_, fits⟩ => large fits

theorem checked_bind {a b : Nat} {next : Nat → InWords Nat} (step : next a = checked b)
    (grows : a ≤ b) : (checked a >>= next) = checked b := by
  by_cases fits : a < UInt64.size
  · rw [checked, if_pos fits, value_bind, step]
  · have later : ¬ b < UInt64.size := fun small => fits (Nat.lt_of_le_of_lt grows small)
    rw [checked, if_neg fits, absent_bind, checked, if_neg later]

end InWords

end RelayMesh
