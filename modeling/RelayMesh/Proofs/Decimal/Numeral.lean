import RelayMesh.Decimal.Reading
import RelayMesh.Decimal.Style
import RelayMesh.Proofs.Text.Natural

namespace RelayMesh.Decimal

open Text (isDigit)

/-- Digits, further digits behind a point unless there are none, and perhaps an exponent. -/
structure Numeral where
  whole : List Char
  fraction : List Char
  exponent : Option Int

namespace Numeral

def fractionText (n : Numeral) : List Char :=
  if n.fraction = [] then [] else '.' :: n.fraction

def exponentText (n : Numeral) : List Char :=
  match n.exponent with
  | none => []
  | some e => 'e' :: (if e < 0 then '-' else '+') :: Text.decimal e.natAbs

def text (n : Numeral) : List Char :=
  n.whole ++ (n.fractionText ++ n.exponentText)

def decimal (n : Numeral) : Decimal :=
  ⟨Text.digitsValue (n.whole ++ n.fraction), n.exponent.getD 0 - n.fraction.length⟩

/-- A numeral of a float: a zero in front stands alone, and there is a point or an exponent. -/
structure Sound (n : Numeral) : Prop where
  whole : ∀ c ∈ n.whole, isDigit c = true
  fraction : ∀ c ∈ n.fraction, isDigit c = true
  lead : n.whole = ['0'] ∨ n.whole ≠ [] ∧ n.whole.head? ≠ some '0'
  float : n.fraction ≠ [] ∨ n.exponent ≠ none

variable {n : Numeral}

theorem Sound.whole_ne_nil (sound : n.Sound) : n.whole ≠ [] := by
  rcases sound.lead with zero | ⟨nonempty, _⟩
  · rw [zero]
    exact List.cons_ne_nil _ _
  · exact nonempty

theorem Sound.text_eq_cons (sound : n.Sound) :
    ∃ c cs, n.text = c :: cs ∧ isDigit c = true := by
  obtain ⟨c, cs, whole⟩ := List.exists_cons_of_ne_nil sound.whole_ne_nil
  refine ⟨c, cs ++ (n.fractionText ++ n.exponentText), ?_, sound.whole c ?_⟩
  · rw [text, whole, List.cons_append]
  · rw [whole]
    exact List.mem_cons_self

theorem exponentText_stop : ∀ c ∈ n.exponentText.head?, isDigit c = false := by
  rw [exponentText]
  split
  · simp
  · rintro c ⟨⟩
    rfl

theorem rest_stop : ∀ c ∈ (n.fractionText ++ n.exponentText).head?, isDigit c = false := by
  rw [fractionText]
  split
  · exact exponentText_stop
  · rintro c ⟨⟩
    rfl

/-! ### Reading -/

theorem exponent?_exponentText : exponent? n.exponentText = some (n.exponent.getD 0) := by
  rw [exponentText]
  split
  · rename_i none
    rw [none]
    rfl
  · rename_i e written
    rw [written, exponent?, if_pos (.inl rfl), Option.getD_some]
    by_cases negative : e < 0
    · rw [if_pos negative]
      simp only [splitSign, Text.natural?_decimal]
      exact congrArg some (show -(e.natAbs : Int) = e by omega)
    · rw [if_neg negative]
      simp only [splitSign, Text.natural?_decimal]
      exact congrArg some (show (e.natAbs : Int) = e by omega)

def splitFraction : List Char → List Char × List Char
  | '.' :: more => (more.takeWhile isDigit, more.dropWhile isDigit)
  | other => ([], other)

theorem unsignedDecimal?_eq (cs : List Char) :
    unsignedDecimal? cs =
      let whole := cs.takeWhile isDigit
      let parts := splitFraction (cs.dropWhile isDigit)
      if whole = [] ∧ parts.1 = [] then none
      else (exponent? parts.2).map fun e =>
        (Text.digitsValue (whole ++ parts.1), e - (parts.1.length : Int)) :=
  rfl

theorem Sound.splitFraction (sound : n.Sound) :
    splitFraction (n.fractionText ++ n.exponentText) = (n.fraction, n.exponentText) := by
  rw [fractionText]
  by_cases plain : n.fraction = []
  · rw [if_pos plain, List.nil_append, plain, exponentText]
    split <;> rfl
  · rw [if_neg plain]
    exact Prod.ext (Text.takeWhile_run sound.fraction exponentText_stop)
      (Text.dropWhile_run sound.fraction exponentText_stop)

theorem Sound.unsignedDecimal? (sound : n.Sound) :
    unsignedDecimal? n.text = some (n.decimal.digits, n.decimal.exponent) := by
  have whole : n.text.takeWhile isDigit = n.whole := Text.takeWhile_run sound.whole rest_stop
  have rest : n.text.dropWhile isDigit = n.fractionText ++ n.exponentText :=
    Text.dropWhile_run sound.whole rest_stop
  have some_digit : ¬ (n.whole = [] ∧ n.fraction = []) := fun both => sound.whole_ne_nil both.1
  rw [unsignedDecimal?_eq, whole, rest, sound.splitFraction]
  dsimp only
  rw [if_neg some_digit, exponent?_exponentText]
  rfl

/-! ### Literals -/

theorem afterDigits?_run {run rest : List Char} (nonempty : run ≠ [])
    (inside : ∀ c ∈ run, isDigit c = true) (stop : ∀ c ∈ rest.head?, isDigit c = false) :
    afterDigits? (run ++ rest) = some rest := by
  rw [afterDigits?, Text.takeWhile_run inside stop, if_neg nonempty,
    Text.dropWhile_run inside stop]

theorem Sound.afterWhole? (sound : n.Sound) :
    afterWhole? n.text = some (n.fractionText ++ n.exponentText) := by
  rcases sound.lead with zero | ⟨nonempty, lead⟩
  · rw [text, zero]
    rfl
  · obtain ⟨c, cs, whole⟩ := List.exists_cons_of_ne_nil nonempty
    have nonzero : c ≠ '0' := by
      rintro rfl
      exact lead (by rw [whole]; rfl)
    have run := afterDigits?_run nonempty sound.whole (@rest_stop n)
    rw [text, whole, List.cons_append]
    rw [whole, List.cons_append] at run
    rw [Decimal.afterWhole?]
    · exact run
    · rintro rest ⟨⟩
      exact nonzero rfl

theorem Sound.afterFraction? (sound : n.Sound) :
    afterFraction? (n.fractionText ++ n.exponentText) = some n.exponentText := by
  rw [fractionText]
  by_cases plain : n.fraction = []
  · rw [if_pos plain, List.nil_append, exponentText]
    split <;> rfl
  · rw [if_neg plain]
    exact afterDigits?_run plain sound.fraction exponentText_stop

theorem afterExponent?_exponentText : afterExponent? n.exponentText = some [] := by
  rw [exponentText]
  split
  · rfl
  · rename_i e _
    have run : afterDigits? (Text.decimal e.natAbs ++ []) = some [] :=
      afterDigits?_run (Text.decimal_ne_nil _) Text.isDigit_of_mem_decimal (by simp)
    rw [List.append_nil] at run
    split <;> exact run

/-! ### Signs -/

def signed (negative : Bool) (n : Numeral) : List Char :=
  if negative then '-' :: n.text else n.text

theorem Sound.afterMinus (sound : n.Sound) (negative : Bool) :
    afterMinus (n.signed negative) = n.text := by
  cases negative with
  | true => rfl
  | false =>
    obtain ⟨c, cs, text, digit⟩ := sound.text_eq_cons
    rw [signed, if_neg (by decide), text, Decimal.afterMinus]
    rintro rest ⟨⟩
    exact absurd digit (by decide)

theorem splitSign_digit {c : Char} (digit : isDigit c = true) (cs : List Char) (negative : Bool) :
    Decimal.splitSign (if negative then '-' :: c :: cs else c :: cs) = (negative, c :: cs) := by
  cases negative with
  | true => rfl
  | false =>
    rw [if_neg (by decide), Decimal.splitSign]
    · rintro rest ⟨⟩
      exact absurd digit (by decide)
    · rintro rest ⟨⟩
      exact absurd digit (by decide)

theorem Sound.isLiteral (sound : n.Sound) (negative : Bool) :
    isLiteral (n.signed negative) = true := by
  rw [Decimal.isLiteral, sound.afterMinus, sound.afterWhole?]
  change ((Decimal.afterFraction? _ >>= afterExponent?) == some []) = true
  rw [sound.afterFraction?]
  change (afterExponent? _ == some []) = true
  rw [afterExponent?_exponentText]
  rfl

theorem isLiteralChar_of_isDigit {c : Char} (digit : isDigit c = true) :
    isLiteralChar c = true := by
  rw [Decimal.isLiteralChar, digit]
  rfl

theorem Sound.isLiteralChar (sound : n.Sound) (negative : Bool) :
    ∀ c ∈ n.signed negative, isLiteralChar c = true := by
  have unsigned : ∀ c ∈ n.text, Decimal.isLiteralChar c = true := by
    intro c member
    simp only [text, List.mem_append] at member
    rcases member with whole | fraction | exponent
    · exact isLiteralChar_of_isDigit (sound.whole c whole)
    · rw [fractionText] at fraction
      split at fraction
      · exact absurd fraction List.not_mem_nil
      · rcases List.mem_cons.mp fraction with rfl | fraction
        · rfl
        · exact isLiteralChar_of_isDigit (sound.fraction c fraction)
    · rw [exponentText] at exponent
      split at exponent
      · exact absurd exponent List.not_mem_nil
      · rcases List.mem_cons.mp exponent with rfl | exponent
        · rfl
        · rcases List.mem_cons.mp exponent with rfl | exponent
          · split <;> rfl
          · exact isLiteralChar_of_isDigit (Text.isDigit_of_mem_decimal c exponent)
  cases negative with
  | true =>
    intro c member
    rcases List.mem_cons.mp member with rfl | member
    · rfl
    · exact unsigned c member
  | false => exact unsigned

theorem Sound.natural? (sound : n.Sound) : Text.natural? n.text = none := by
  rw [Text.natural?, if_neg]
  rintro ⟨-, digits⟩
  rw [text, List.all_append, List.all_append, Bool.and_eq_true, Bool.and_eq_true] at digits
  rcases sound.float with fraction | exponent
  · have point := digits.2.1
    rw [fractionText, if_neg fraction] at point
    exact absurd (List.all_eq_true.mp point '.' List.mem_cons_self) (by decide)
  · have letter := digits.2.2
    rw [exponentText] at letter
    split at letter
    · exact exponent ‹_›
    · exact absurd (List.all_eq_true.mp letter 'e' List.mem_cons_self) (by decide)

theorem Sound.integer? (sound : n.Sound) (negative : Bool) :
    integer? (n.signed negative) = none := by
  cases negative with
  | true =>
    change (Text.natural? n.text >>= _).map _ = _
    rw [sound.natural?]
    rfl
  | false =>
    obtain ⟨c, cs, text, digit⟩ := sound.text_eq_cons
    have none := sound.natural?
    rw [text] at none
    rw [signed, if_neg (by decide), text, Decimal.integer?, none]
    · rfl
    · rintro rest ⟨⟩
      exact absurd digit (by decide)

theorem named?_eq_none {negative : Bool} {c : Char} {cs : List Char} (digit : isDigit c = true) :
    named? negative (String.ofList ((c :: cs).map Char.toLower)) = none := by
  have first (name : String) (other : name.toList.head? ≠ some c.toLower) :
      String.ofList ((c :: cs).map Char.toLower) ≠ name := by
    rintro rfl
    rw [String.toList_ofList] at other
    exact other rfl
  obtain ⟨k, small, rfl⟩ := Text.eq_digitChar_of_isDigit digit
  have letters : ∀ k < 10, "inf".toList.head? ≠ some k.digitChar.toLower ∧
      "infinity".toList.head? ≠ some k.digitChar.toLower ∧
      "nan".toList.head? ≠ some k.digitChar.toLower := by decide
  obtain ⟨inf, infinity, nan⟩ := letters k small
  rw [named?, if_neg (by rintro (same | same); exacts [first _ inf same, first _ infinity same]),
    if_neg (first _ nan)]

theorem ofChars?_digit {c : Char} (digit : isDigit c = true) (cs : List Char) (negative : Bool) :
    Decimal.ofChars? (if negative then '-' :: c :: cs else c :: cs) =
      (Decimal.unsignedDecimal? (c :: cs)).map fun (digits, e) => .ofDecimal negative digits e := by
  rw [Decimal.ofChars?, splitSign_digit digit]
  dsimp only
  rw [named?_eq_none digit]

theorem Sound.ofChars? (sound : n.Sound) (negative : Bool) :
    ofChars? (n.signed negative) =
      some (.ofDecimal negative n.decimal.digits n.decimal.exponent) := by
  obtain ⟨c, cs, text, digit⟩ := sound.text_eq_cons
  have decimal := sound.unsignedDecimal?
  rw [text] at decimal
  rw [signed, text, ofChars?_digit digit, decimal]
  rfl

end Numeral

end RelayMesh.Decimal
