import RelayMesh.Document.Printer
import RelayMesh.Document.Reader
import RelayMesh.Proofs.Decimal.Written

namespace RelayMesh.Document

open Decimal (isLiteralChar isLiteral)
open Text (isDigit)

def EndsNumber (rest : List Char) : Prop :=
  ∀ c ∈ rest.head?, isLiteralChar c = false

structure IsNumber (literal : List Char) (d : Document) : Prop where
  inside : ∀ c ∈ literal, isLiteralChar c = true
  valid : isLiteral literal = true
  value : (ofInteger? literal).or (ofFloat? literal) = some d

theorem IsNumber.eq_cons {literal : List Char} {d : Document} (number : IsNumber literal d) :
    ∃ c cs, literal = c :: cs ∧ isLiteralChar c = true := by
  cases literal with
  | nil => exact absurd number.valid (by decide)
  | cons c cs => exact ⟨c, cs, rfl, number.inside c List.mem_cons_self⟩

theorem IsNumber.readNumber {literal rest : List Char} {d : Document} (number : IsNumber literal d)
    (ends : EndsNumber rest) : readNumber (literal ++ rest) = some (d, rest) := by
  have literal_eq := Text.takeWhile_run number.inside ends
  have rest_eq := Text.dropWhile_run number.inside ends
  rw [Document.readNumber, literal_eq, rest_eq, if_pos number.valid, number.value]
  rfl

/-! ### Integers -/

theorem afterWhole?_decimal (n : Nat) : Decimal.afterWhole? (Text.decimal n) = some [] := by
  by_cases zero : n = 0
  · subst zero
    rfl
  · have lead := Text.head?_decimal_ne zero
    have run : Decimal.afterDigits? (Text.decimal n ++ []) = some [] :=
      Decimal.Numeral.afterDigits?_run (Text.decimal_ne_nil n) Text.isDigit_of_mem_decimal (by simp)
    rw [List.append_nil] at run
    obtain ⟨c, cs, digits⟩ := List.exists_cons_of_ne_nil (Text.decimal_ne_nil n)
    rw [digits] at lead run ⊢
    rw [Decimal.afterWhole?]
    · exact run
    · rintro rest ⟨⟩
      exact lead rfl

theorem decimal_ne_minus (n : Nat) (cs : List Char) : Text.decimal n ≠ '-' :: cs := by
  intro same
  have digit := Text.isDigit_of_mem_decimal (n := n) '-' (same ▸ List.mem_cons_self)
  exact absurd digit (by decide)

theorem isLiteral_printInt (i : Int) : isLiteral (printInt i) = true := by
  have minus : Decimal.afterMinus (printInt i) = Text.decimal i.natAbs := by
    rw [printInt]
    split
    · rfl
    · rw [Decimal.afterMinus]
      exact fun cs same => decimal_ne_minus _ cs same
  rw [isLiteral, minus, afterWhole?_decimal]
  rfl

theorem isLiteralChar_printInt (i : Int) : ∀ c ∈ printInt i, isLiteralChar c = true := by
  have digits : ∀ c ∈ Text.decimal i.natAbs, isLiteralChar c = true := fun c member =>
    Decimal.Numeral.isLiteralChar_of_isDigit (Text.isDigit_of_mem_decimal c member)
  rw [printInt]
  split
  · intro c member
    rcases List.mem_cons.mp member with rfl | member
    · rfl
    · exact digits c member
  · exact digits

theorem integer?_printInt (i : Int) : Decimal.integer? (printInt i) = some i := by
  rw [printInt]
  split
  · rename_i negative
    rw [Decimal.integer?, Text.natural?_decimal]
    exact congrArg some (show -(i.natAbs : Int) = i by omega)
  · rename_i positive
    rw [Decimal.integer?, Text.natural?_decimal]
    · exact congrArg some (show (i.natAbs : Int) = i by omega)
    · exact fun cs same => decimal_ne_minus _ cs same

def FitsWord (i : Int) : Prop :=
  -9223372036854775808 ≤ i ∧ i < 18446744073709551616

theorem ofInteger?_printInt {i : Int} (fits : FitsWord i) :
    ofInteger? (printInt i) = some (.int i) := by
  have no_zero : printInt i ≠ ['-', '0'] := by
    rw [printInt]
    split
    · rename_i negative
      intro same
      exact Text.head?_decimal_ne (show i.natAbs ≠ 0 by omega) (by rw [(List.cons.inj same).2]; rfl)
    · exact decimal_ne_minus _ _
  rw [ofInteger?, integer?_printInt]
  change (if printInt i = ['-', '0'] then none else _) = _
  rw [if_neg no_zero]
  exact if_pos fits

theorem isNumber_printInt {i : Int} (fits : FitsWord i) : IsNumber (printInt i) (.int i) where
  inside := isLiteralChar_printInt i
  valid := isLiteral_printInt i
  value := by
    rw [ofInteger?_printInt fits]
    rfl

/-! ### Floats -/

theorem isNumber_printFloat {x : Binary64} (finite : x.isFinite = true) :
    IsNumber (printFloat x) (.float x) := by
  obtain ⟨n, sound, text, same⟩ := Decimal.render_numeral finite
  rw [printFloat, if_pos finite, text]
  refine ⟨sound.isLiteralChar _, sound.isLiteral _, ?_⟩
  rw [ofInteger?, sound.integer?, ofFloat?, sound.ofChars?, same]
  change (Option.filter _ (some x)).map _ = _
  rw [Option.filter_some, if_pos finite]
  rfl

end RelayMesh.Document
