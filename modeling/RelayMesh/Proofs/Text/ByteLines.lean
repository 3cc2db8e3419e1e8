import RelayMesh.Proofs.Text.Lines
import RelayMesh.Text.Utf8

namespace RelayMesh.Text.Utf8

/-- A pending sequence goes on with bytes beyond ASCII, and so will be its character. -/
structure Pending.Proper (p : Pending) : Prop where
  low : 0x80 ≤ p.low
  high : p.high ≤ 0xBF
  more : 2 ≤ p.code * 0x40 + (p.low - 0x80)
  last : p.owed ≤ 1 → 2 ≤ p.code

theorem start_proper {byte : UInt8} {p : Pending} (begun : start byte = .pending p) : p.Proper := by
  simp only [start] at begun
  repeat' split at begun
  all_goals cases begun
  all_goals constructor <;> dsimp only <;> omega

theorem start_whole {byte : UInt8} {c : Char} (begun : start byte = .whole c) :
    c = Char.ofNat byte.toNat := by
  simp only [start] at begun
  repeat' split at begun
  all_goals cases begun
  rfl

theorem start_ascii {byte : UInt8} (small : byte.toNat < 0x80) :
    start byte = .whole (Char.ofNat byte.toNat) := by
  simp only [start, if_pos small]

theorem ofNat_ne_newline {n : Nat} (other : n ≠ 10) : Char.ofNat n ≠ '\n' := by
  intro same
  by_cases valid : n.isValidChar
  · rw [Char.ofNat, dif_pos valid] at same
    exact other (congrArg Char.toNat same)
  · rw [Char.ofNat, dif_neg valid] at same
    contradiction

/-! ### One byte -/

theorem beginUnit_proper (byte : UInt8) : ∀ p ∈ (beginUnit byte).2, p.Proper := by
  unfold beginUnit
  split
  · simp
  · rename_i begun
    simpa using start_proper begun
  · simp

theorem beginUnit_free {byte : UInt8} (other : byte ≠ 0x0A) : some '\n' ∉ (beginUnit byte).1 := by
  unfold beginUnit
  split
  · rename_i begun
    cases start_whole begun
    have code : byte.toNat ≠ 10 := fun same => other (UInt8.toNat_inj.mp same)
    simpa using (ofNat_ne_newline code).symm
  · simp
  · simp

section

variable {state : Option Pending}

theorem advance_proper (proper : ∀ p ∈ state, p.Proper) (byte : UInt8) :
    ∀ p ∈ (advance state byte).2, p.Proper := by
  cases state with
  | none => exact beginUnit_proper byte
  | some p =>
    obtain ⟨low, high, more, last⟩ := proper p rfl
    simp only [advance]
    split
    · split
      · simp
      · simp only [Option.mem_def, Option.some.injEq, forall_eq']
        constructor <;> dsimp only <;> omega
    · exact beginUnit_proper byte

theorem advance_free (proper : ∀ p ∈ state, p.Proper) {byte : UInt8} (other : byte ≠ 0x0A) :
    some '\n' ∉ (advance state byte).1 := by
  cases state with
  | none => exact beginUnit_free other
  | some p =>
    obtain ⟨low, high, more, last⟩ := proper p rfl
    simp only [advance]
    split
    · split
      · rename_i done
        have code : p.code * 0x40 + byte.toNat % 0x40 ≠ 10 := by
          have := last done
          omega
        simpa using (ofNat_ne_newline code).symm
      · simp
    · simpa using beginUnit_free other

def unfinished (state : Option Pending) : List (Option Char) :=
  if state.isSome then [none] else []

theorem advance_ascii (proper : ∀ p ∈ state, p.Proper) {byte : UInt8} (small : byte.toNat < 0x80) :
    advance state byte = (unfinished state ++ [some (Char.ofNat byte.toNat)], none) := by
  cases state with
  | none => simp [advance, beginUnit, start_ascii small, unfinished]
  | some p =>
    have low := (proper p rfl).low
    have outside : ¬ (p.low ≤ byte.toNat ∧ byte.toNat ≤ p.high) := by omega
    simp [advance, outside, beginUnit, start_ascii small, unfinished]

end

/-! ### Strings of bytes -/

theorem pending_proper {d : Decoder} (proper : ∀ p ∈ d.pending, p.Proper) (bytes : List UInt8) :
    ∀ p ∈ (bytes.foldl Decoder.feed d).pending, p.Proper := by
  induction bytes generalizing d with
  | nil => exact proper
  | cons byte bytes ih => exact ih (advance_proper proper byte)

theorem units_free {d : Decoder} (proper : ∀ p ∈ d.pending, p.Proper) (free : some '\n' ∉ d.units)
    {bytes : List UInt8} (others : 0x0A ∉ bytes) :
    some '\n' ∉ (bytes.foldl Decoder.feed d).units := by
  induction bytes generalizing d with
  | nil => exact free
  | cons byte bytes ih =>
    rw [List.mem_cons, not_or] at others
    refine ih (advance_proper proper byte) ?_ others.2
    have added := advance_free proper (Ne.symm others.1)
    simp [Decoder.feed, added, free]

theorem foldl_feed (bytes : List UInt8) (units : List (Option Char)) (state : Option Pending) :
    bytes.foldl Decoder.feed ⟨units, state⟩ =
      ⟨(bytes.foldl Decoder.feed ⟨[], state⟩).units ++ units,
        (bytes.foldl Decoder.feed ⟨[], state⟩).pending⟩ := by
  induction bytes generalizing units state with
  | nil => rfl
  | cons byte bytes ih =>
    simp only [List.foldl_cons, Decoder.feed]
    rw [ih, ih ((advance state byte).1.reverse ++ [])]
    simp

theorem units_eq (bytes : List UInt8) :
    units bytes = (bytes.foldl Decoder.feed {}).units.reverse ++
      unfinished (bytes.foldl Decoder.feed {}).pending := by
  simp only [units, unfinished]
  split <;> simp

theorem units_ascii {byte : UInt8} (small : byte.toNat < 0x80) (front back : List UInt8) :
    units (front ++ byte :: back) =
      units front ++ some (Char.ofNat byte.toNat) :: units back := by
  have proper := pending_proper (d := {}) (by simp) front
  simp only [units_eq, List.foldl_append, List.foldl_cons]
  generalize front.foldl Decoder.feed {} = d at proper
  rw [Decoder.feed, advance_ascii proper small, foldl_feed]
  simp [unfinished]

theorem decodeLossy_ascii {byte : UInt8} (small : byte.toNat < 0x80) (front back : List UInt8) :
    decodeLossy (front ++ byte :: back) =
      decodeLossy front ++ Char.ofNat byte.toNat :: decodeLossy back := by
  simp [decodeLossy, units_ascii small]

theorem newline_not_mem_decodeLossy {bytes : List UInt8} (free : 0x0A ∉ bytes) :
    '\n' ∉ decodeLossy bytes := by
  intro member
  obtain ⟨unit, listed, own⟩ := List.mem_map.mp member
  cases unit with
  | none => exact absurd own (by decide)
  | some c =>
    cases own
    have units := units_free (d := {}) (by simp) (by simp) free
    rw [units_eq, List.mem_append, List.mem_reverse] at listed
    rcases listed with listed | listed
    · exact units listed
    · unfold unfinished at listed
      split at listed <;> simp at listed

theorem splitOn_decodeLossy (bytes : List UInt8) :
    splitOn '\n' (decodeLossy bytes) = (splitOn 0x0A bytes).map decodeLossy := by
  by_cases found : 0x0A ∈ bytes
  · obtain ⟨front, back, rfl, free⟩ := List.eq_append_cons_of_mem found
    have newline : Char.ofNat (0x0A : UInt8).toNat = '\n' := rfl
    rw [decodeLossy_ascii (by decide), newline, splitOn_append, splitOn_append, List.map_append,
      splitOn_decodeLossy back, splitOn_of_not_mem free,
      splitOn_of_not_mem (newline_not_mem_decodeLossy free)]
    rfl
  · rw [splitOn_of_not_mem found, splitOn_of_not_mem (newline_not_mem_decodeLossy found)]
    rfl
termination_by bytes.length

end RelayMesh.Text.Utf8
