import Mathlib.Data.List.Induction
import Mathlib.Tactic.Ring
import RelayMesh.Text.Basic

namespace RelayMesh.Text

theorem digit?_digitChar {n : Nat} (small : n < 10) : digit? n.digitChar = some n := by
  have all : ∀ n < 10, digit? n.digitChar = some n := by decide
  exact all n small

theorem isDigit_digitChar {n : Nat} (small : n < 10) : isDigit n.digitChar = true := by
  rw [isDigit, digit?_digitChar small]
  rfl

theorem eq_digitChar_of_isDigit {c : Char} (digit : isDigit c = true) :
    ∃ n < 10, c = n.digitChar := by
  have range : '0' ≤ c ∧ c ≤ '9' := by
    by_contra outside
    rw [isDigit, digit?, if_neg outside] at digit
    exact absurd digit (by decide)
  have low : 48 ≤ c.toNat := range.1
  have high : c.toNat ≤ 57 := range.2
  refine ⟨c.toNat - 48, by omega, Char.toNat_inj.mp ?_⟩
  rw [Nat.toNat_digitChar_of_lt_ten (by omega)]
  omega

theorem ne_of_isDigit {c d : Char} (digit : isDigit c = true) (other : isDigit d = false) :
    c ≠ d := by
  rintro rfl
  rw [digit] at other
  exact absurd other (by decide)

/-! ### Values -/

theorem digitsValue_append (xs ys : List Char) :
    digitsValue (xs ++ ys) = digitsValue xs * 10 ^ ys.length + digitsValue ys := by
  have shift (ys : List Char) (n : Nat) :
      ys.foldl (fun n c => n * 10 + (digit? c).getD 0) n = n * 10 ^ ys.length + digitsValue ys := by
    induction ys generalizing n with
    | nil => simp [digitsValue]
    | cons c ys ih =>
      rw [digitsValue, List.foldl_cons, List.foldl_cons, ih, ih, List.length_cons, Nat.pow_succ]
      ring
  rw [digitsValue, List.foldl_append, shift]
  rfl

@[simp] theorem isDigit_zero : isDigit '0' = true := rfl

theorem isDigit_of_mem_zeros {count : Nat} : ∀ c ∈ List.replicate count '0', isDigit c = true := by
  intro c member
  rw [(List.mem_replicate.mp member).2]
  rfl

theorem digitsValue_zeros (count : Nat) : digitsValue (List.replicate count '0') = 0 := by
  induction count with
  | zero => rfl
  | succ count ih =>
    rw [List.replicate_succ', digitsValue_append, ih]
    rfl

theorem digitsValue_zeros_append (count : Nat) (cs : List Char) :
    digitsValue (List.replicate count '0' ++ cs) = digitsValue cs := by
  rw [digitsValue_append, digitsValue_zeros, Nat.zero_mul, Nat.zero_add]

theorem digitsValue_append_zeros (cs : List Char) (count : Nat) :
    digitsValue (cs ++ List.replicate count '0') = digitsValue cs * 10 ^ count := by
  rw [digitsValue_append, digitsValue_zeros, List.length_replicate, Nat.add_zero]

/-! ### Written numbers -/

theorem decimal_of_lt {n : Nat} (small : n < 10) : decimal n = [n.digitChar] :=
  Nat.toDigits_of_lt_base small

theorem decimal_of_le {n : Nat} (large : 10 ≤ n) :
    decimal n = decimal (n / 10) ++ [(n % 10).digitChar] :=
  Nat.toDigits_of_base_le (by decide) large

theorem decimal_ne_nil (n : Nat) : decimal n ≠ [] :=
  Nat.toDigits_ne_nil

theorem isDigit_of_mem_decimal {n : Nat} : ∀ c ∈ decimal n, isDigit c = true := by
  induction n using Nat.strong_induction_on with
  | h n ih =>
    intro c member
    rcases Nat.lt_or_ge n 10 with small | large
    · rw [decimal_of_lt small, List.mem_singleton] at member
      rw [member, isDigit_digitChar small]
    · rw [decimal_of_le large, List.mem_append, List.mem_singleton] at member
      rcases member with member | rfl
      · exact ih (n / 10) (by omega) c member
      · exact isDigit_digitChar (Nat.mod_lt n (by decide))

theorem digitsValue_decimal (n : Nat) : digitsValue (decimal n) = n := by
  induction n using Nat.strong_induction_on with
  | h n ih =>
    rcases Nat.lt_or_ge n 10 with small | large
    · rw [decimal_of_lt small, digitsValue, List.foldl_cons, digit?_digitChar small]
      simp
    · have last := Nat.mod_lt n (show 0 < 10 by decide)
      have digit : digitsValue [(n % 10).digitChar] = n % 10 := by
        rw [digitsValue, List.foldl_cons, digit?_digitChar last]
        simp
      rw [decimal_of_le large, digitsValue_append, ih (n / 10) (by omega), digit]
      simp only [List.length_cons, List.length_nil]
      omega

/-- A text of digits denotes a number: its decimal digits, with any zeros in front. -/
def Denotes (cs : List Char) (n : Nat) : Prop :=
  ∃ zeros, cs = List.replicate zeros '0' ++ decimal n

theorem denotes_decimal (n : Nat) : Denotes (decimal n) n :=
  ⟨0, rfl⟩

theorem Denotes.ne_nil {cs : List Char} {n : Nat} (denotes : Denotes cs n) : cs ≠ [] := by
  obtain ⟨zeros, rfl⟩ := denotes
  simp [decimal_ne_nil]

theorem Denotes.digits {cs : List Char} {n : Nat} (denotes : Denotes cs n) :
    ∀ c ∈ cs, isDigit c = true := by
  obtain ⟨zeros, rfl⟩ := denotes
  intro c member
  exact (List.mem_append.mp member).elim (isDigit_of_mem_zeros c) (isDigit_of_mem_decimal c)

theorem Denotes.lt_pow {cs : List Char} {n : Nat} (denotes : Denotes cs n) :
    n < 10 ^ cs.length := by
  obtain ⟨zeros, rfl⟩ := denotes
  have own : n < 10 ^ (decimal n).length :=
    (Nat.length_toDigits_le_iff (by decide) (List.length_pos_iff.mpr (decimal_ne_nil n))).mp
      (Nat.le_refl _)
  exact own.trans_le (Nat.pow_le_pow_right (by decide) (by simp))

theorem denotes_digitsValue {cs : List Char} (some_digit : cs ≠ [])
    (digits : ∀ c ∈ cs, isDigit c = true) : Denotes cs (digitsValue cs) := by
  induction cs using List.reverseRec with
  | nil => contradiction
  | append_singleton front c ih =>
    obtain ⟨n, small, rfl⟩ := eq_digitChar_of_isDigit (digits c (by simp))
    have last : digitsValue [n.digitChar] = n := by
      simp [digitsValue, digit?_digitChar small]
    rw [digitsValue_append, last, List.length_singleton, Nat.pow_one]
    by_cases single : front = []
    · refine ⟨0, ?_⟩
      simp [single, digitsValue, decimal_of_lt small]
    · obtain ⟨zeros, written⟩ := ih single fun d member => digits d (by simp [member])
      rcases Nat.eq_zero_or_pos (digitsValue front) with zero | positive
      · -- A zero in front of the last digit is one of the leading zeros.
        refine ⟨zeros + 1, ?_⟩
        rw [zero, decimal_of_lt (by decide)] at written
        rw [zero, Nat.zero_mul, Nat.zero_add, decimal_of_lt small, written,
          List.replicate_succ']
        rfl
      · refine ⟨zeros, ?_⟩
        rw [decimal_of_le (n := digitsValue front * 10 + n) (by omega),
          show (digitsValue front * 10 + n) / 10 = digitsValue front by omega,
          show (digitsValue front * 10 + n) % 10 = n by omega, ← List.append_assoc, ← written]

theorem natural?_eq_some_iff {cs : List Char} {n : Nat} :
    natural? cs = some n ↔ Denotes cs n := by
  constructor
  · intro read
    unfold natural? at read
    split at read
    · rename_i valid
      cases read
      exact denotes_digitsValue valid.1 (List.all_eq_true.mp valid.2)
    · contradiction
  · intro denotes
    rw [natural?, if_pos ⟨denotes.ne_nil, List.all_eq_true.mpr denotes.digits⟩]
    obtain ⟨zeros, rfl⟩ := denotes
    rw [digitsValue_zeros_append, digitsValue_decimal]

theorem natural?_decimal (n : Nat) : natural? (decimal n) = some n :=
  natural?_eq_some_iff.mpr (denotes_decimal n)

theorem unsigned?_toString {limit n : Nat} (small : n < limit) :
    unsigned? limit (toString n) = some n := by
  have digits : (toString n).toList = decimal n := by
    simp [toString, Nat.repr, decimal]
  have no_plus : ∀ rest, decimal n ≠ '+' :: rest := by
    intro rest same
    have digit := isDigit_of_mem_decimal '+' (same ▸ List.mem_cons_self)
    contradiction
  unfold unsigned?
  rw [digits]
  split
  · rename_i rest plus
    exact absurd plus (no_plus rest)
  · simp [natural?_decimal, Option.filter, small]

theorem head?_decimal_ne {n : Nat} (positive : n ≠ 0) : (decimal n).head? ≠ some '0' := by
  induction n using Nat.strong_induction_on with
  | h n ih =>
    rcases Nat.lt_or_ge n 10 with small | large
    · rw [decimal_of_lt small]
      simpa using positive
    · obtain ⟨c, cs, digits⟩ := List.exists_cons_of_ne_nil (decimal_ne_nil (n / 10))
      have front := ih (n / 10) (by omega) (by omega)
      rw [digits] at front
      rw [decimal_of_le large, digits]
      exact front

/-! ### Padded numbers -/

theorem length_padded {width n : Nat} (positive : 0 < width) (fits : n < 10 ^ width) :
    (padded width n).length = width := by
  have short : (decimal n).length ≤ width :=
    (Nat.length_toDigits_le_iff (by decide) positive).mpr fits
  rw [padded, List.length_append, List.length_replicate]
  omega

theorem denotes_padded (width n : Nat) : Denotes (padded width n) n :=
  ⟨_, rfl⟩

theorem Denotes.padded {cs : List Char} {width n : Nat} (denotes : Denotes cs n)
    (length : cs.length = width) : padded width n = cs := by
  obtain ⟨zeros, rfl⟩ := denotes
  rw [Text.padded, ← length, List.length_append, List.length_replicate, Nat.add_sub_cancel]

theorem isDigit_of_mem_padded {width n : Nat} : ∀ c ∈ padded width n, isDigit c = true :=
  (denotes_padded width n).digits

theorem natural?_padded (width n : Nat) : natural? (padded width n) = some n :=
  natural?_eq_some_iff.mpr (denotes_padded width n)

/-! ### Runs of digits -/

section Runs

variable {allowed : Char → Bool} {run rest : List Char}

theorem takeWhile_run (inside : ∀ c ∈ run, allowed c = true)
    (stop : ∀ c ∈ rest.head?, allowed c = false) : (run ++ rest).takeWhile allowed = run := by
  rw [List.takeWhile_append_of_pos inside]
  cases rest with
  | nil => simp
  | cons c rest => simp [stop c rfl]

theorem dropWhile_run (inside : ∀ c ∈ run, allowed c = true)
    (stop : ∀ c ∈ rest.head?, allowed c = false) : (run ++ rest).dropWhile allowed = rest := by
  rw [List.dropWhile_append_of_pos inside]
  cases rest with
  | nil => rfl
  | cons c rest => simp [stop c rfl]

end Runs

end RelayMesh.Text
