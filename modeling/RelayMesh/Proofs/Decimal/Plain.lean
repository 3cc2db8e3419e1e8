import RelayMesh.Proofs.Decimal.Written
import RelayMesh.Text.Classes

namespace RelayMesh.Decimal

open Text (isDigit decimal digitsValue)

theorem unsignedDecimal?_run {run : List Char} (inside : ∀ c ∈ run, isDigit c = true)
    (nonempty : run ≠ []) : unsignedDecimal? run = some (digitsValue run, 0) := by
  have taken : (run ++ []).takeWhile isDigit = run := Text.takeWhile_run inside (by simp)
  have dropped : (run ++ []).dropWhile isDigit = [] := Text.dropWhile_run inside (by simp)
  rw [List.append_nil] at taken dropped
  rw [Numeral.unsignedDecimal?_eq, taken, dropped]
  simp only [Numeral.splitFraction, nonempty, false_and, if_false, List.append_nil]
  rfl

/-- A text that begins with a digit and reads as a decimal of a given value. -/
def ReadsAs (value : ℚ) (text : List Char) : Prop :=
  ∃ (c : Char) (cs : List Char) (d : Decimal), text = c :: cs ∧ isDigit c = true ∧
    unsignedDecimal? text = some (d.digits, d.exponent) ∧ d.value = value

theorem LaidOut.readsAs {before : Int} {digits text : List Char}
    (laid : LaidOut before digits text) :
    ReadsAs (digitsValue digits * (10 : ℚ) ^ (before - digits.length)) text := by
  obtain ⟨n, sound, rfl, same⟩ := laid
  obtain ⟨c, cs, first, digit⟩ := sound.text_eq_cons
  exact ⟨c, cs, n.decimal, first, digit, sound.unsignedDecimal?, same⟩

theorem readsAs_pointAt {before : Int} {digits : List Char}
    (inside : ∀ c ∈ digits, isDigit c = true) (some_digit : digits ≠ [])
    (lead : digits.head? ≠ some '0' ∨ digits = ['0'] ∧ before = 1) :
    ReadsAs (digitsValue digits * (10 : ℚ) ^ (before - digits.length))
      (pointAt before digits false) := by
  by_cases whole : 0 < before ∧ digits.length ≤ before.toNat
  · obtain ⟨positive, large⟩ := whole
    have text : pointAt before digits false =
        digits ++ List.replicate (before.toNat - digits.length) '0' := by
      rw [pointAt, if_neg (by omega), if_pos large]
      exact List.append_nil _
    have run : ∀ c ∈ digits ++ List.replicate (before.toNat - digits.length) '0',
        isDigit c = true := fun c member =>
      (List.mem_append.mp member).elim (inside c) (Text.isDigit_of_mem_zeros c)
    obtain ⟨c, cs, rfl⟩ := List.exists_cons_of_ne_nil some_digit
    have read := unsignedDecimal?_run run (by simp)
    rw [← text] at read
    refine ⟨c, _, ⟨digitsValue (pointAt before (c :: cs) false), 0⟩, text,
      inside c List.mem_cons_self, read, ?_⟩
    have exponent : before - (c :: cs).length =
        ((before.toNat - (c :: cs).length : Nat) : Int) := by
      omega
    rw [value, text, Text.digitsValue_append_zeros, exponent, zpow_natCast, zpow_zero, mul_one,
      Nat.cast_mul, Nat.cast_pow]
    rfl
  · have same : pointAt before digits false = pointAt before digits true := by
      simp only [pointAt]
      split
      · rfl
      · split
        · omega
        · rfl
    exact same ▸ (laidOut_pointAt inside some_digit lead).readsAs

open Binary64 in
theorem ofChars?_plainStyle {x : Binary64} (finite : x.isFinite = true) :
    ofChars? (plainStyle.render x) = some x := by
  have lead : (decimal (shortest .up x).digits).head? ≠ some '0' ∨
      decimal (shortest .up x).digits = ['0'] ∧
        ((decimal (shortest .up x).digits).length : Int) + (shortest .up x).exponent = 1 := by
    by_cases zero : (shortest .up x).digits = 0
    · rcases shortest_canonical .up x with nonzero | whole
      · exact absurd zero nonzero
      · rw [zero, whole]
        exact .inr ⟨rfl, rfl⟩
    · exact .inl (Text.head?_decimal_ne zero)
  obtain ⟨c, cs, d, text, digit, read, same⟩ :=
    readsAs_pointAt Text.isDigit_of_mem_decimal (Text.decimal_ne_nil _) lead
  rw [Text.digitsValue_decimal, add_sub_cancel_left] at same
  have render : plainStyle.render x = if x.isNegative then '-' :: c :: cs else c :: cs := by
    rw [Style.render, isNaN_of_isFinite finite, isInfinite_of_isFinite finite, ← text]
    rfl
  rw [render, Numeral.ofChars?_digit digit, ← text, read, Option.map_some]
  exact congrArg some (ofDecimal_of_value .up finite same)

theorem isLiteralChar_pointAt {before : Int} {digits : List Char} {keeps : Bool}
    (inside : ∀ c ∈ digits, isDigit c = true) :
    ∀ c ∈ pointAt before digits keeps, isLiteralChar c = true := by
  have digit {c : Char} (member : c ∈ digits) : isLiteralChar c = true :=
    Numeral.isLiteralChar_of_isDigit (inside c member)
  have zero {count : Nat} {c : Char} (member : c ∈ List.replicate count '0') :
      isLiteralChar c = true :=
    Numeral.isLiteralChar_of_isDigit (Text.isDigit_of_mem_zeros c member)
  intro c member
  rw [pointAt] at member
  split at member
  · simp only [List.mem_cons, List.mem_append] at member
    rcases member with rfl | rfl | zeros | listed
    exacts [rfl, rfl, zero zeros, digit listed]
  · split at member
    · simp only [List.mem_append] at member
      rcases member with (listed | zeros) | fraction
      · exact digit listed
      · exact zero zeros
      · split at fraction
        · rcases List.mem_pair.mp fraction with rfl | rfl <;> rfl
        · contradiction
    · simp only [List.mem_cons, List.mem_append] at member
      rcases member with front | rfl | back
      exacts [digit (List.mem_of_mem_take front), rfl, digit (List.mem_of_mem_drop back)]

theorem isLiteralChar_plainStyle {x : Binary64} (finite : x.isFinite = true) :
    ∀ c ∈ plainStyle.render x, isLiteralChar c = true := by
  have body : ∀ c ∈ plainStyle.layOut (shortest .up x), isLiteralChar c = true :=
    isLiteralChar_pointAt Text.isDigit_of_mem_decimal
  intro c member
  rw [Style.render, Binary64.isNaN_of_isFinite finite, Binary64.isInfinite_of_isFinite finite]
    at member
  cases sign : x.isNegative with
  | true =>
    rw [sign] at member
    rcases List.mem_cons.mp member with rfl | member
    exacts [rfl, body c member]
  | false =>
    rw [sign] at member
    exact body c member

theorem isBlank_of_isLiteralChar {c : Char} (literal : isLiteralChar c = true) :
    Text.isBlank c = false := by
  simp only [isLiteralChar, Bool.or_eq_true, beq_iff_eq] at literal
  rcases literal with ((((digit | rfl) | rfl) | rfl) | rfl) | rfl
  · obtain ⟨k, small, rfl⟩ := Text.eq_digitChar_of_isDigit digit
    have blank : ∀ k < 10, Text.isBlank k.digitChar = false := by decide
    exact blank k small
  all_goals decide

theorem trim_eq_self {cs : List Char} (solid : ∀ c ∈ cs, Text.isBlank c = false) :
    Text.trim cs = cs := by
  have untouched {ds : List Char} (solid : ∀ c ∈ ds, Text.isBlank c = false) :
      ds.dropWhile Text.isBlank = ds := by
    cases ds with
    | nil => rfl
    | cons d ds => rw [List.dropWhile_cons, if_neg (by simp [solid d List.mem_cons_self])]
  rw [Text.trim, untouched solid, untouched fun c member => solid c (List.mem_reverse.mp member),
    List.reverse_reverse]

end RelayMesh.Decimal
