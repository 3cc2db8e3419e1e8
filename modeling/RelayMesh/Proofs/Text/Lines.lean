import RelayMesh.Text.Basic

namespace RelayMesh.Text

section Pieces

variable {α : Type} [DecidableEq α] {separator : α}

theorem splitOn_eq_splitOn (separator : α) (text : List α) :
    splitOn separator text = text.splitOn separator := by
  induction text with
  | nil => rfl
  | cons c text ih =>
    rw [splitOn, List.foldr_cons, ← splitOn, ih, List.splitOn_cons_eq_if_modifyHead]
    by_cases same : c = separator
    · rw [if_pos same, if_pos (beq_iff_eq.mpr same)]
    · rw [if_neg same, if_neg (by simpa using same)]
      obtain ⟨piece, more, split⟩ := List.exists_cons_of_ne_nil (List.splitOn_ne_nil separator text)
      rw [split]
      rfl

@[simp] theorem splitOn_nil (separator : α) : splitOn separator [] = [[]] :=
  rfl

theorem splitOn_ne_nil (separator : α) (text : List α) : splitOn separator text ≠ [] := by
  rw [splitOn_eq_splitOn]
  exact List.splitOn_ne_nil separator text

theorem splitOn_intercalate {pieces : List (List α)} (any : pieces ≠ [])
    (free : ∀ piece ∈ pieces, separator ∉ piece) :
    splitOn separator ([separator].intercalate pieces) = pieces := by
  rw [splitOn_eq_splitOn, List.splitOn_intercalate separator free any]

theorem splitOn_pair {front back : List α} (inFront : separator ∉ front)
    (behind : separator ∉ back) :
    splitOn separator (front ++ separator :: back) = [front, back] := by
  rw [splitOn_eq_splitOn, List.splitOn_append_cons_self_of_not_mem inFront,
    List.splitOn_eq_singleton behind]

theorem splitOn_append (separator : α) (front back : List α) :
    splitOn separator (front ++ separator :: back) =
      splitOn separator front ++ splitOn separator back := by
  rw [splitOn_eq_splitOn, splitOn_eq_splitOn, splitOn_eq_splitOn, List.splitOn_append_cons_self]

theorem splitOn_of_not_mem {text : List α} (free : separator ∉ text) :
    splitOn separator text = [text] := by
  rw [splitOn_eq_splitOn, List.splitOn_eq_singleton free]

theorem of_mem_splitOn {text piece : List α}
    (member : piece ∈ splitOn separator text) : separator ∉ piece ∧ piece ⊆ text := by
  induction text generalizing piece with
  | nil =>
    rw [splitOn_nil, List.mem_singleton] at member
    simp [member]
  | cons c cs ih =>
    rw [splitOn, List.foldr_cons, ← splitOn] at member
    split at member
    · rcases List.mem_cons.mp member with rfl | behind
      · simp
      · exact ⟨(ih behind).1, List.subset_cons_of_subset c (ih behind).2⟩
    · rename_i other
      split at member
      · rename_i empty
        exact absurd empty (splitOn_ne_nil separator cs)
      · rename_i first more split
        rcases List.mem_cons.mp member with rfl | behind
        · obtain ⟨free, inside⟩ := ih (split ▸ List.mem_cons_self)
          exact ⟨by simp [free, Ne.symm other], List.cons_subset_cons c inside⟩
        · obtain ⟨free, inside⟩ := ih (split ▸ List.mem_cons_of_mem first behind)
          exact ⟨free, List.subset_cons_of_subset c inside⟩

end Pieces

/-! ### Lines -/

/-- A reader of lines finds nothing in an empty line and does not see a carriage return at the end
of a line. -/
structure IgnoresReturn {α : Type} (read : List Char → Option α) : Prop where
  empty : read [] = none
  blind : ∀ line, read (line ++ ['\r']) = read line

variable {α : Type} {read : List Char → Option α}

theorem IgnoresReturn.dropReturn (ignores : IgnoresReturn read) (line : List Char) :
    read (dropReturn line) = read line := by
  unfold Text.dropReturn
  split
  · rename_i last
    obtain ⟨front, rfl⟩ := List.getLast?_eq_some_iff.mp last
    rw [List.dropLast_concat, ignores.blind]
  · rfl

theorem IgnoresReturn.filterMap_lines (ignores : IgnoresReturn read) (text : List Char) :
    (lines text).filterMap read = (splitOn '\n' text).filterMap read := by
  obtain ⟨front, last, pieces⟩ : ∃ front last, splitOn '\n' text = front ++ [last] :=
    ⟨_, _, (List.dropLast_concat_getLast (splitOn_ne_nil '\n' text)).symm⟩
  have others : (front.map Text.dropReturn).filterMap read = front.filterMap read := by
    rw [List.filterMap_map, show read ∘ Text.dropReturn = read from funext ignores.dropReturn]
  rw [lines, pieces, List.dropLast_concat, List.getLast?_concat, List.filterMap_append, others,
    List.filterMap_append]
  congr 1
  by_cases nothing : last = []
  · simp [nothing, Option.filter, ignores.empty]
  · simp [nothing, Option.filter]

end RelayMesh.Text
