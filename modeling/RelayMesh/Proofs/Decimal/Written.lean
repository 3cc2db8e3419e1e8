import RelayMesh.Proofs.Decimal.Numeral
import RelayMesh.Proofs.Decimal.Shortest

namespace RelayMesh.Decimal

open Text (isDigit decimal digitsValue)

theorem Numeral.value_decimal (n : Numeral) :
    n.decimal.value = digitsValue (n.whole ++ n.fraction) *
      (10 : ℚ) ^ (n.exponent.getD 0 - (n.fraction.length : Int)) :=
  rfl

/-- What a list of digits is laid out as: a numeral with the value that the digits have when the
point stands behind the first `before` of them. -/
def LaidOut (before : Int) (digits text : List Char) : Prop :=
  ∃ n : Numeral, n.Sound ∧ text = n.text ∧
    n.decimal.value = digitsValue digits * (10 : ℚ) ^ (before - digits.length)

section Layout

variable {before : Int} {digits : List Char}

theorem laidOut_behind (inside : ∀ c ∈ digits, isDigit c = true) (some_digit : digits ≠ [])
    (small : before ≤ 0) : LaidOut before digits (pointAt before digits true) := by
  have fraction : List.replicate (-before).toNat '0' ++ digits ≠ [] := by simp [some_digit]
  refine ⟨⟨['0'], List.replicate (-before).toNat '0' ++ digits, none⟩,
    ⟨by simp [Text.isDigit_zero], ?_, .inl rfl, .inl fraction⟩, ?_, ?_⟩
  · intro c member
    exact (List.mem_append.mp member).elim (Text.isDigit_of_mem_zeros c) (inside c)
  · rw [pointAt, if_pos small, Numeral.text, Numeral.fractionText, if_neg fraction]
    simp [Numeral.exponentText]
  · have zeros : ['0'] ++ (List.replicate (-before).toNat '0' ++ digits) =
        List.replicate ((-before).toNat + 1) '0' ++ digits := rfl
    rw [Numeral.value_decimal, zeros, Text.digitsValue_zeros_append, List.length_append,
      List.length_replicate]
    congr 2
    rw [Option.getD_none]
    push_cast
    omega

theorem laidOut_front (inside : ∀ c ∈ digits, isDigit c = true) (some_digit : digits ≠ [])
    (lead : digits.head? ≠ some '0' ∨ digits = ['0'] ∧ before = 1) (positive : 0 < before)
    (large : digits.length ≤ before.toNat) :
    LaidOut before digits (pointAt before digits true) := by
  refine ⟨⟨digits ++ List.replicate (before.toNat - digits.length) '0', ['0'], none⟩,
    ⟨?_, by simp [Text.isDigit_zero], ?_, .inl (by simp)⟩, ?_, ?_⟩
  · intro c member
    exact (List.mem_append.mp member).elim (inside c) (Text.isDigit_of_mem_zeros c)
  · rcases lead with lead | ⟨rfl, rfl⟩
    · refine .inr ⟨by simp [some_digit], ?_⟩
      obtain ⟨c, cs, rfl⟩ := List.exists_cons_of_ne_nil some_digit
      exact lead
    · exact .inl rfl
  · rw [pointAt, if_neg (by omega), if_pos large]
    simp [Numeral.text, Numeral.fractionText, Numeral.exponentText]
  · have zeros : digits ++ List.replicate (before.toNat - digits.length) '0' ++ ['0'] =
        digits ++ List.replicate (before.toNat - digits.length + 1) '0' := by
      rw [List.append_assoc, List.replicate_succ']
    have exponent : before - digits.length =
        ((before.toNat - digits.length + 1 : Nat) : Int) + (0 - (1 : Nat)) := by omega
    rw [Numeral.value_decimal, zeros, Text.digitsValue_append_zeros, exponent,
      zpow_add₀ (by norm_num), zpow_natCast, Nat.cast_mul, Nat.cast_pow, mul_assoc]
    rfl

theorem laidOut_between (inside : ∀ c ∈ digits, isDigit c = true)
    (lead : digits.head? ≠ some '0' ∨ digits = ['0']) (positive : 0 < before)
    (small : before.toNat < digits.length) :
    LaidOut before digits (pointAt before digits true) := by
  have fraction : digits.drop before.toNat ≠ [] := by simpa using small
  refine ⟨⟨digits.take before.toNat, digits.drop before.toNat, none⟩,
    ⟨fun c member => inside c (List.mem_of_mem_take member),
      fun c member => inside c (List.mem_of_mem_drop member), ?_, .inl fraction⟩, ?_, ?_⟩
  · right
    obtain ⟨c, cs, rfl⟩ := List.exists_cons_of_ne_nil (List.length_pos_iff.mp
      (show 0 < digits.length by omega))
    obtain ⟨k, first⟩ := Nat.exists_eq_succ_of_ne_zero (show before.toNat ≠ 0 by omega)
    rw [first, List.take_succ_cons]
    refine ⟨List.cons_ne_nil _ _, ?_⟩
    rcases lead with lead | single
    · exact lead
    · rw [single, List.length_singleton] at small
      omega
  · rw [pointAt, if_neg (by omega), if_neg (by omega), Numeral.text, Numeral.fractionText,
      if_neg fraction]
    simp [Numeral.exponentText]
  · rw [Numeral.value_decimal, List.take_append_drop, List.length_drop]
    congr 2
    rw [Option.getD_none]
    omega

theorem laidOut_pointAt (inside : ∀ c ∈ digits, isDigit c = true) (some_digit : digits ≠ [])
    (lead : digits.head? ≠ some '0' ∨ digits = ['0'] ∧ before = 1) :
    LaidOut before digits (pointAt before digits true) := by
  rcases Int.lt_or_le 0 before with positive | small
  · rcases Nat.lt_or_ge before.toNat digits.length with between | front
    · exact laidOut_between inside (lead.imp id (·.1)) positive between
    · exact laidOut_front inside some_digit lead positive front
  · exact laidOut_behind inside some_digit small

theorem laidOut_scientific (inside : ∀ c ∈ digits, isDigit c = true) (some_digit : digits ≠ [])
    (lead : digits.head? ≠ some '0') :
    LaidOut before digits (scientific (before - 1) digits true) := by
  obtain ⟨first, rest, rfl⟩ := List.exists_cons_of_ne_nil some_digit
  refine ⟨⟨[first], rest, some (before - 1)⟩, ⟨?_, ?_, .inr ⟨List.cons_ne_nil _ _, lead⟩,
    .inr (Option.some_ne_none _)⟩, ?_, ?_⟩
  · exact fun c member => inside c (List.mem_singleton.mp member ▸ List.mem_cons_self)
  · exact fun c member => inside c (List.mem_cons_of_mem first member)
  · cases rest <;> by_cases negative : before - 1 < 0 <;>
      simp only [scientific, Numeral.text, Numeral.fractionText, Numeral.exponentText, negative,
        if_true, if_false, List.cons_append, List.nil_append, reduceCtorEq]
  · rw [Numeral.value_decimal, List.length_cons, List.singleton_append]
    congr 2
    rw [Option.getD_some]
    push_cast
    omega

end Layout

theorem layOut_document (d : Decimal) :
    documentStyle.layOut d =
      let before := ((decimal d.digits).length : Int) + d.exponent
      if d.digits == 0 || (-5 ≤ before - 1 && before - 1 < 16) then
        pointAt before (decimal d.digits) true
      else scientific (before - 1) (decimal d.digits) true :=
  rfl

theorem layOut_numeral {d : Decimal} (canonical : d.digits ≠ 0 ∨ d.exponent = 0) :
    ∃ n : Numeral, n.Sound ∧ documentStyle.layOut d = n.text ∧ n.decimal.value = d.value := by
  have inside : ∀ c ∈ decimal d.digits, isDigit c = true := Text.isDigit_of_mem_decimal
  have some_digit := Text.decimal_ne_nil d.digits
  have laid_out : LaidOut ((decimal d.digits).length + d.exponent) (decimal d.digits)
      (documentStyle.layOut d) := by
    rw [layOut_document]
    dsimp only
    split
    · refine laidOut_pointAt inside some_digit ?_
      by_cases zero : d.digits = 0
      · rcases canonical with nonzero | whole
        · exact absurd zero nonzero
        · rw [zero, whole]
          exact .inr ⟨rfl, rfl⟩
      · exact .inl (Text.head?_decimal_ne zero)
    · rename_i elsewhere
      have nonzero : d.digits ≠ 0 := by
        rintro zero
        rw [zero] at elsewhere
        exact elsewhere rfl
      exact laidOut_scientific inside some_digit (Text.head?_decimal_ne nonzero)
  obtain ⟨n, sound, text, same⟩ := laid_out
  refine ⟨n, sound, text, ?_⟩
  rw [same, Text.digitsValue_decimal, add_sub_cancel_left, value]

open Binary64 in
theorem render_numeral {x : Binary64} (finite : x.isFinite = true) :
    ∃ n : Numeral, n.Sound ∧ documentStyle.render x = n.signed x.isNegative ∧
      ofDecimal x.isNegative n.decimal.digits n.decimal.exponent = x := by
  obtain ⟨n, sound, text, same⟩ := layOut_numeral (shortest_canonical .toEven x)
  refine ⟨n, sound, ?_, ofDecimal_of_value .toEven finite same⟩
  rw [Style.render, isNaN_of_isFinite finite, isInfinite_of_isFinite finite, Numeral.signed, ← text]
  rfl

end RelayMesh.Decimal
