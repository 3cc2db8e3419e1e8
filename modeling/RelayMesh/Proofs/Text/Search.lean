import Mathlib.Data.List.Basic
import RelayMesh.Text.Basic

namespace RelayMesh.Text

variable {α : Type} {marker : List Char} {read : List Char → Option α}

theorem readBehind_eq_some {text : List Char} {a : α} :
    (marker.isPrefixOf? text).bind read = some a ↔
      ∃ behind, text = marker ++ behind ∧ read behind = some a := by
  simp only [Option.bind_eq_some_iff, List.isPrefixOf?_eq_some_iff_append_eq, eq_comm]

theorem readBehind_eq_none {text : List Char} :
    (marker.isPrefixOf? text).bind read = none ↔
      ∀ behind, text = marker ++ behind → read behind = none := by
  simp only [Option.bind_eq_none_iff, List.isPrefixOf?_eq_some_iff_append_eq, eq_comm]

theorem behindMarker?_eq_none_iff {text : List Char} :
    behindMarker? marker read text = none ↔
      ∀ front behind, text = front ++ (marker ++ behind) → read behind = none := by
  induction text with
  | nil =>
    rw [behindMarker?, readBehind_eq_none]
    constructor
    · intro free front behind split
      obtain ⟨rfl, same⟩ := List.append_eq_nil_iff.mp split.symm
      exact free behind same.symm
    · exact fun free behind => free [] behind
  | cons c text ih =>
    rw [behindMarker?]
    split
    · rename_i a found
      obtain ⟨behind, same, reads⟩ := readBehind_eq_some.mp found
      simp only [reduceCtorEq, false_iff]
      intro free
      rw [free [] behind same] at reads
      contradiction
    · rename_i none_here
      rw [ih]
      constructor
      · intro free front behind split
        cases front with
        | nil => exact readBehind_eq_none.mp none_here behind split
        | cons d front => exact free front behind (List.cons.inj split).2
      · exact fun free front behind split => free (c :: front) behind (congrArg (c :: ·) split)

theorem behindMarker?_eq_some_iff {text : List Char} {a : α} :
    behindMarker? marker read text = some a ↔
      ∃ front behind, text = front ++ (marker ++ behind) ∧ read behind = some a ∧
        ∀ other rest, text = other ++ (marker ++ rest) → (read rest).isSome = true →
          front.length ≤ other.length := by
  induction text with
  | nil =>
    rw [behindMarker?, readBehind_eq_some]
    constructor
    · rintro ⟨behind, same, reads⟩
      exact ⟨[], behind, same, reads, fun _ _ _ _ => Nat.zero_le _⟩
    · rintro ⟨front, behind, split, reads, _⟩
      obtain ⟨rfl, same⟩ := List.append_eq_nil_iff.mp split.symm
      exact ⟨behind, same.symm, reads⟩
  | cons c text ih =>
    rw [behindMarker?]
    split
    · rename_i b found
      obtain ⟨behind, same, reads⟩ := readBehind_eq_some.mp found
      constructor
      · rintro ⟨⟩
        exact ⟨[], behind, same, reads, fun _ _ _ _ => Nat.zero_le _⟩
      · rintro ⟨front, rest, split, reads_rest, least⟩
        have leftmost := least [] behind same (by rw [reads]; rfl)
        obtain rfl := List.length_eq_zero_iff.mp (Nat.le_zero.mp leftmost)
        obtain rfl := List.append_cancel_left (same.symm.trans split)
        exact reads.symm.trans reads_rest
    · rename_i none_here
      have not_here := readBehind_eq_none.mp none_here
      rw [ih]
      constructor
      · rintro ⟨front, behind, rfl, reads, least⟩
        refine ⟨c :: front, behind, rfl, reads, ?_⟩
        intro other rest split readable
        cases other with
        | nil =>
          rw [not_here rest split] at readable
          contradiction
        | cons d other =>
          exact Nat.succ_le_succ (least other rest (List.cons.inj split).2 readable)
      · rintro ⟨front, behind, split, reads, least⟩
        cases front with
        | nil =>
          rw [not_here behind split] at reads
          contradiction
        | cons d front =>
          refine ⟨front, behind, (List.cons.inj split).2, reads, ?_⟩
          intro other rest split_rest readable
          have later := least (c :: other) rest (congrArg (c :: ·) split_rest) readable
          exact Nat.le_of_succ_le_succ later

theorem readBehind_append_singleton {c : Char} (foreign : c ∉ marker)
    (blind : ∀ behind, read (behind ++ [c]) = read behind) (text : List Char) :
    (marker.isPrefixOf? (text ++ [c])).bind read = (marker.isPrefixOf? text).bind read := by
  apply Option.ext
  intro a
  rw [readBehind_eq_some, readBehind_eq_some]
  constructor
  · rintro ⟨behind, split, reads⟩
    rcases List.eq_nil_or_concat' behind with rfl | ⟨front, d, rfl⟩
    · rw [List.append_nil] at split
      exact absurd (split ▸ List.mem_append_right text List.mem_cons_self) foreign
    · rw [← List.append_assoc] at split
      obtain ⟨same, last⟩ := List.append_inj' split rfl
      cases last
      exact ⟨front, same, (blind front).symm.trans reads⟩
  · rintro ⟨behind, rfl, reads⟩
    exact ⟨behind ++ [c], List.append_assoc .., (blind behind).trans reads⟩

theorem behindMarker?_append_singleton {c : Char} (foreign : c ∉ marker)
    (blind : ∀ behind, read (behind ++ [c]) = read behind) (text : List Char) :
    behindMarker? marker read (text ++ [c]) = behindMarker? marker read text := by
  induction text with
  | nil =>
    have here := readBehind_append_singleton foreign blind []
    rw [List.nil_append] at here ⊢
    rw [behindMarker?, behindMarker?, here]
    split
    · rename_i found
      exact found.symm
    · rfl
  | cons d text ih =>
    have here := readBehind_append_singleton foreign blind (d :: text)
    rw [List.cons_append] at here ⊢
    rw [behindMarker?, behindMarker?, here, ih]

/-! ### Markers that do not overlap themselves -/

/-- No part at the end of the marker, save the whole, is also a part at its beginning. -/
def Unbordered (marker : List Char) : Prop :=
  ∀ k < marker.length, 0 < k → ¬ marker.drop k <+: marker

instance (marker : List Char) : Decidable (Unbordered marker) :=
  inferInstanceAs (Decidable (∀ k < marker.length, 0 < k → ¬ marker.drop k <+: marker))

theorem Unbordered.apart (unbordered : Unbordered marker) {front tail other rest : List Char}
    (same : front ++ (marker ++ tail) = other ++ (marker ++ rest)) :
    front.length ≤ other.length ∨
      ∃ gap, front = other ++ (marker ++ gap) ∧ rest = gap ++ (marker ++ tail) := by
  rcases List.append_eq_append_iff.mp same with ⟨gap, rfl, _⟩ | ⟨start, rfl, overlap⟩
  · exact .inl (by simp)
  rcases List.append_eq_append_iff.mp overlap with ⟨gap, rfl, split⟩ | ⟨border, split, tails⟩
  · exact .inr ⟨gap, rfl, split⟩
  cases start with
  | nil => exact .inl (by simp)
  | cons c start =>
    cases border with
    | nil =>
      rw [List.append_nil] at split
      exact .inr ⟨[], by rw [split, List.append_nil], tails.symm⟩
    | cons d border =>
      have shorter : (c :: start).length < marker.length := by simp [split]
      have dropped : marker.drop (c :: start).length = d :: border := by
        rw [split, List.drop_left]
      have begins : d :: border <+: marker :=
        List.prefix_of_prefix_length_le ⟨rest, tails.symm⟩ (List.prefix_append marker tail)
          (by simp [split]; omega)
      rw [← dropped] at begins
      exact absurd begins (unbordered _ shorter (Nat.succ_pos _))

theorem Unbordered.behindMarker?_eq_some (unbordered : Unbordered marker)
    {front behind : List Char} {a : α} (free : ¬ marker <:+: front)
    (reads : read behind = some a) :
    behindMarker? marker read (front ++ (marker ++ behind)) = some a := by
  refine behindMarker?_eq_some_iff.mpr ⟨front, behind, rfl, reads, fun other rest same _ => ?_⟩
  refine (unbordered.apart same).resolve_right ?_
  rintro ⟨gap, rfl, _⟩
  exact free (List.infix_append' other marker gap)

/-! ### Texts that no occurrence of a marker reaches into -/

/-- The text is no part of the marker, nor the marker of the text, and neither begins with what
the other ends in. -/
def Separates (text marker : List Char) : Prop :=
  ¬ marker <:+: text ∧ ¬ text <:+: marker ∧
    ∀ k < marker.length, 0 < k → ¬ marker.take k <:+ text ∧ ¬ marker.drop k <+: text

instance (text marker : List Char) : Decidable (Separates text marker) :=
  inferInstanceAs (Decidable (_ ∧ _ ∧ ∀ k < marker.length, 0 < k → _ ∧ _))

theorem Separates.apart {text : List Char} (separates : Separates text marker)
    {front behind : List Char} (found : marker <:+: front ++ (text ++ behind)) :
    marker <:+: front ∨ marker <:+: behind := by
  obtain ⟨not_inside, not_around, cut⟩ := separates
  have cut {start border : List Char} (split : marker = start ++ border) (some_start : start ≠ [])
      (some_border : border ≠ []) : ¬ start <:+ text ∧ ¬ border <+: text := by
    have parts := cut start.length
      (by simp [split, List.length_pos_iff.mpr some_border]) (List.length_pos_iff.mpr some_start)
    rwa [split, List.take_left, List.drop_left] at parts
  rcases List.infix_append_iff_ne_nil.mp found with inFront | later |
    ⟨start, border, some_start, some_border, split, _, reaches⟩
  · exact .inl inFront
  · rcases List.infix_append_iff_ne_nil.mp later with inside | inBack |
      ⟨start, border, some_start, some_border, split, reaches, _⟩
    · exact absurd inside not_inside
    · exact .inr inBack
    · exact absurd reaches (cut split some_start some_border).1
  · -- The marker begins in front: it ends within the text or goes beyond it.
    rcases List.prefix_or_prefix_of_prefix reaches (List.prefix_append text behind) with
      within | beyond
    · exact absurd within (cut split some_start some_border).2
    · have part : text <:+: marker := by
        rw [split]
        exact beyond.isInfix.trans List.infix_append_right
      exact absurd part not_around

end RelayMesh.Text
