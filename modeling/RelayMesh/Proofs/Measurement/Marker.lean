import Mathlib.Data.List.TakeWhile
import RelayMesh.Measurement.Reading
import RelayMesh.Proofs.Text.Natural
import RelayMesh.Proofs.Text.Search

namespace RelayMesh.Measurement

open Text (Denotes isDecimalDigit)

variable {allowed : Char → Bool} {marker : String}

theorem run?_eq_some_iff {cs run : List Char} :
    run? allowed cs = some run ↔ run ≠ [] ∧ (∀ c ∈ run, allowed c = true) ∧
      ∃ rest, cs = run ++ rest ∧ ∀ c ∈ rest.head?, allowed c = false := by
  constructor
  · intro found
    unfold run? at found
    split at found
    · contradiction
    · rename_i filled
      obtain rfl := Option.some.inj found
      refine ⟨filled, fun c member => List.mem_takeWhile_imp member, cs.dropWhile allowed,
        List.takeWhile_append_dropWhile.symm, ?_⟩
      intro c first
      have stop := List.head?_dropWhile_not allowed cs
      rw [first] at stop
      exact stop
  · rintro ⟨filled, inside, rest, rfl, stop⟩
    unfold run?
    rw [Text.takeWhile_run inside stop]
    cases run with
    | nil => contradiction
    | cons c run => rfl

theorem run?_isSome_iff {cs : List Char} :
    (run? allowed cs).isSome = true ↔ ∃ c rest, cs = c :: rest ∧ allowed c = true := by
  cases cs with
  | nil => simp [run?]
  | cons c cs => by_cases inside : allowed c = true <;> simp [run?, inside]

theorem run?_append_singleton {c : Char} (foreign : allowed c = false) (cs : List Char) :
    run? allowed (cs ++ [c]) = run? allowed cs := by
  have taken : (cs ++ [c]).takeWhile allowed = cs.takeWhile allowed := by
    induction cs with
    | nil => simp [foreign]
    | cons d cs ih => simp [List.takeWhile_cons, ih]
  rw [run?, run?, taken]

theorem word64?_eq_some_iff {digits : List Char} {n : Nat} :
    word64? digits = some n ↔ Denotes digits n ∧ n < 2 ^ 64 := by
  rw [word64?, Option.filter_eq_some_iff, Text.natural?_eq_some_iff, decide_eq_true_eq]
  rfl

/-- The marker stands somewhere in the text with a digit right behind it. -/
def Marked (marker : String) (text : List Char) : Prop :=
  ∃ front c rest, text = front ++ (marker.toList ++ c :: rest) ∧ isDecimalDigit c = true

theorem Marked.infix_of {text : List Char} (marked : Marked marker text) :
    marker.toList <:+: text := by
  obtain ⟨front, c, rest, rfl, _⟩ := marked
  exact List.infix_append' ..

structure FirstNumber (marker : String) (line front digits behind : List Char) : Prop where
  split : line = front ++ (marker.toList ++ (digits ++ behind))
  filled : digits ≠ []
  inside : ∀ c ∈ digits, isDecimalDigit c = true
  whole : ∀ c ∈ behind.head?, isDecimalDigit c = false
  leftmost : ∀ other c rest, line = other ++ (marker.toList ++ c :: rest) →
    isDecimalDigit c = true → front.length ≤ other.length

theorem behindMarker?_run_eq_some_iff {line digits : List Char} :
    Text.behindMarker? marker.toList (run? isDecimalDigit) line = some digits ↔
      ∃ front behind, FirstNumber marker line front digits behind := by
  simp only [Text.behindMarker?_eq_some_iff, run?_eq_some_iff, run?_isSome_iff]
  constructor
  · rintro ⟨front, _, split, ⟨filled, inside, behind, rfl, whole⟩, leftmost⟩
    exact ⟨front, behind, split, filled, inside, whole,
      fun other c rest same digit => leftmost other _ same ⟨c, rest, rfl, digit⟩⟩
  · rintro ⟨front, behind, split, filled, inside, whole, leftmost⟩
    refine ⟨front, _, split, ⟨filled, inside, behind, rfl, whole⟩, ?_⟩
    rintro other _ same ⟨c, rest, rfl, digit⟩
    exact leftmost other c rest same digit

theorem markedNumber?_eq_some_iff {line : List Char} {n : Nat} :
    markedNumber? marker line = some n ↔ ∃ front digits behind,
      FirstNumber marker line front digits behind ∧ Denotes digits n ∧ n < 2 ^ 64 := by
  simp only [markedNumber?, Option.bind_eq_some_iff, behindMarker?_run_eq_some_iff,
    word64?_eq_some_iff]
  constructor
  · rintro ⟨digits, ⟨front, behind, first⟩, number⟩
    exact ⟨front, digits, behind, first, number⟩
  · rintro ⟨front, digits, behind, first, number⟩
    exact ⟨digits, ⟨front, behind, first⟩, number⟩

theorem marked_iff {text : List Char} :
    Marked marker text ↔
      (Text.behindMarker? marker.toList (run? isDecimalDigit) text).isSome = true := by
  rw [Option.isSome_iff_ne_none, ne_eq, Text.behindMarker?_eq_none_iff]
  constructor
  · rintro ⟨front, c, rest, split, digit⟩ free
    have run := run?_isSome_iff.mpr ⟨c, rest, rfl, digit⟩
    rw [free front (c :: rest) split] at run
    contradiction
  · intro some_run
    push Not at some_run
    obtain ⟨front, behind, split, run⟩ := some_run
    obtain ⟨c, rest, rfl, digit⟩ := run?_isSome_iff.mp (Option.isSome_iff_ne_none.mpr run)
    exact ⟨front, c, rest, split, digit⟩

instance (text : List Char) : Decidable (Marked marker text) :=
  decidable_of_iff _ marked_iff.symm

theorem markedNumber?_of_not_marked {line : List Char} (unmarked : ¬ Marked marker line) :
    markedNumber? marker line = none := by
  have none_found := Option.not_isSome_iff_eq_none.mp (mt marked_iff.mpr unmarked)
  rw [markedNumber?, none_found]
  rfl

theorem markedNumber?_append_singleton {c : Char} (foreign : c ∉ marker.toList)
    (other : isDecimalDigit c = false) (line : List Char) :
    markedNumber? marker (line ++ [c]) = markedNumber? marker line := by
  rw [markedNumber?, markedNumber?,
    Text.behindMarker?_append_singleton foreign (run?_append_singleton other)]

theorem isDecimalDigit_of_isDigit {c : Char} (digit : Text.isDigit c = true) :
    isDecimalDigit c = true := by
  obtain ⟨n, small, rfl⟩ := Text.eq_digitChar_of_isDigit digit
  have all : ∀ n < 10, isDecimalDigit n.digitChar = true := by decide
  exact all n small

theorem markedNumber?_written (unbordered : Text.Unbordered marker.toList)
    (start : ∃ c rest, marker.toList = c :: rest ∧ isDecimalDigit c = false)
    {front behind : List Char} {n : Nat} (unmarked : ¬ Marked marker front) (small : n < 2 ^ 64)
    (stop : ∀ c ∈ behind.head?, isDecimalDigit c = false) :
    markedNumber? marker (front ++ (marker.toList ++ (Text.decimal n ++ behind))) = some n := by
  refine markedNumber?_eq_some_iff.mpr ⟨front, Text.decimal n, behind, ?_,
    Text.denotes_decimal n, small⟩
  refine ⟨rfl, Text.decimal_ne_nil n, ?_, stop, ?_⟩
  · exact fun c member => isDecimalDigit_of_isDigit (Text.isDigit_of_mem_decimal c member)
  · intro other c rest same digit
    rcases unbordered.apart same with order | ⟨gap, inFront, split⟩
    · exact order
    · -- The digit would be the marker's own first character, or stand in front of it.
      cases gap with
      | nil =>
        obtain ⟨d, _, own, no_digit⟩ := start
        rw [List.nil_append, own] at split
        obtain ⟨rfl, _⟩ := List.cons.inj split
        rw [digit] at no_digit
        contradiction
      | cons d gap =>
        obtain ⟨rfl, _⟩ := List.cons.inj split
        exact absurd ⟨other, c, gap, inFront, digit⟩ unmarked

end RelayMesh.Measurement
