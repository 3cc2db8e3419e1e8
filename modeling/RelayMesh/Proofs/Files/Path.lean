import Mathlib.Data.List.Basic
import RelayMesh.Files.Path
import RelayMesh.Proofs.Text.Lines

namespace RelayMesh.Files

/-- The name of something in a directory: a single piece that leads somewhere, and not up. -/
structure PlainName (name : String) : Prop where
  nonempty : name ≠ ""
  noDot : name ≠ "."
  noParent : name ≠ ".."
  noSlash : '/' ∉ name.toList

instance (name : String) : Decidable (PlainName name) :=
  decidable_of_iff (name ≠ "" ∧ name ≠ "." ∧ name ≠ ".." ∧ '/' ∉ name.toList)
    ⟨fun ⟨nonempty, noDot, noParent, noSlash⟩ => ⟨nonempty, noDot, noParent, noSlash⟩,
      fun plain => ⟨plain.nonempty, plain.noDot, plain.noParent, plain.noSlash⟩⟩

theorem startsWith_slash {path : String} :
    path.startsWith "/" = true ↔ path.toList.head? = some '/' := by
  rw [String.startsWith_string_iff]
  cases path.toList with
  | nil => simp
  | cons c cs => simp [eq_comm]

theorem exists_of_endsWith {path : String} (ends : path.endsWith "/" = true) :
    ∃ front, path.toList = front ++ ['/'] := by
  rw [String.endsWith_eq_endsWith_toSlice, String.Slice.endsWith_string_iff] at ends
  obtain ⟨front, same⟩ := ends
  exact ⟨front, by simpa using same.symm⟩

theorem toList_ne_nil {path : String} (named : path ≠ "") : path.toList ≠ [] :=
  fun empty => named (String.toList_inj.mp empty)

def leading (pieces : List String) : List String :=
  pieces.filter fun piece => piece != "" && piece != "."

theorem leading_cons_still {piece : String} (still : piece = "" ∨ piece = ".")
    (rest : List String) : leading (piece :: rest) = leading rest :=
  List.filter_cons_of_neg (by rcases still with rfl | rfl <;> decide)

theorem leading_cons {piece : String} (onward : ¬ (piece = "" ∨ piece = "."))
    (rest : List String) : leading (piece :: rest) = piece :: leading rest :=
  List.filter_cons_of_pos (by simpa [not_or] using onward)

theorem PlainName.onward {name : String} (plain : PlainName name) : ¬ (name = "" ∨ name = ".") :=
  not_or.mpr ⟨plain.nonempty, plain.noDot⟩

theorem PlainName.leading {name : String} (plain : PlainName name) :
    Files.leading [name] = [name] :=
  leading_cons plain.onward []

section Join

variable {directory name : String} (named : directory ≠ "") (free : '/' ∉ name.toList)
include free

theorem pieces_of_free : pieces name = [name] := by
  rw [pieces, Text.splitOn_of_not_mem free, List.map_singleton, String.ofList_toList]

theorem relative_of_free : name.startsWith "/" = false := by
  rw [Bool.eq_false_iff]
  exact fun absolute => free (List.mem_of_mem_head? (startsWith_slash.mp absolute))

include named

theorem toList_join : (join directory name).toList =
    if directory.endsWith "/" then directory.toList ++ name.toList
    else directory.toList ++ '/' :: name.toList := by
  rw [join, if_neg (not_or.mpr ⟨Bool.eq_false_iff.mp (relative_of_free free), named⟩)]
  split
  · exact String.toList_append
  · change (directory ++ "/" ++ name).toList = _
    rw [String.toList_append, String.toList_append, List.append_assoc]
    rfl

theorem startsWith_join :
    (join directory name).startsWith "/" = directory.startsWith "/" := by
  obtain ⟨c, cs, first⟩ := List.exists_cons_of_ne_nil (toList_ne_nil named)
  rw [Bool.eq_iff_iff, startsWith_slash, startsWith_slash, toList_join named free, first]
  split <;> rfl

theorem join_ne_empty : join directory name ≠ "" := by
  intro empty
  have letters := toList_join named free
  rw [empty] at letters
  split at letters <;> simp [named] at letters

theorem pieces_join : pieces (join directory name) = pieces directory ++ [name] ∨
    ∃ front, front ≠ [] ∧ pieces directory = front ++ [""] ∧
      pieces (join directory name) = front ++ [name] := by
  have own := pieces_of_free free
  rw [pieces] at own ⊢
  rw [toList_join named free]
  split
  · rename_i ends
    obtain ⟨front, same⟩ := exists_of_endsWith ends
    refine .inr ⟨(Text.splitOn '/' front).map String.ofList, ?_, ?_, ?_⟩
    · simpa using Text.splitOn_ne_nil '/' front
    · rw [pieces, same, Text.splitOn_append, List.map_append]
      rfl
    · rw [same, List.append_assoc, List.singleton_append, Text.splitOn_append, List.map_append, own]
  · rw [Text.splitOn_append, List.map_append, own]
    exact .inl rfl

end Join

theorem pieces_ne_nil (path : String) : pieces path ≠ [] := by
  simpa [pieces] using Text.splitOn_ne_nil '/' path.toList

theorem of_mem_pieces {path piece : String} (member : piece ∈ pieces path) :
    '/' ∉ piece.toList ∧ piece.toList ⊆ path.toList := by
  obtain ⟨letters, listed, rfl⟩ := List.mem_map.mp member
  rw [String.toList_ofList]
  exact Text.of_mem_splitOn listed

theorem head?_pieces_of_absolute {path : String} (absolute : path.startsWith "/" = true) :
    (pieces path).head? = some "" := by
  obtain ⟨rest, letters⟩ := List.head?_eq_some_iff.mp (startsWith_slash.mp absolute)
  rw [pieces, letters, ← List.nil_append ('/' :: rest), Text.splitOn_append, Text.splitOn_nil]
  rfl

theorem head?_pieces_join {directory name : String} (named : directory ≠ "")
    (free : '/' ∉ name.toList) :
    (pieces (join directory name)).head? = (pieces directory).head? := by
  rcases pieces_join named free with last | ⟨front, some, own, last⟩
  · rw [last, List.head?_append_of_ne_nil _ (pieces_ne_nil directory)]
  · rw [own, last, List.head?_append_of_ne_nil _ some, List.head?_append_of_ne_nil _ some]

theorem leading_append (front back : List String) :
    leading (front ++ back) = leading front ++ leading back :=
  List.filter_append front back

theorem steps_join {directory name : String} (named : directory ≠ "")
    (free : '/' ∉ name.toList) :
    steps (join directory name) = steps directory ++ leading [name] := by
  change leading (pieces _) = leading (pieces _) ++ _
  rcases pieces_join named free with last | ⟨front, _, own, last⟩
  · rw [last, leading_append]
  · rw [own, last, leading_append, leading_append, leading_cons_still (.inl rfl)]
    exact congrArg (· ++ leading [name]) (List.append_nil _).symm

theorem steps_of_free {name : String} (free : '/' ∉ name.toList) : steps name = leading [name] :=
  congrArg leading (pieces_of_free free)

/-! The empty path stands for the working directory, and what is below it has its name alone. -/

theorem join_empty (name : String) : join "" name = name :=
  if_pos (.inr rfl)

theorem startsWith_below {name : String} (free : '/' ∉ name.toList) (directory : String) :
    (join directory name).startsWith "/" = directory.startsWith "/" := by
  by_cases named : directory = ""
  · rw [named, join_empty, relative_of_free free, relative_of_free (by decide)]
  · exact startsWith_join named free

theorem steps_below {name : String} (free : '/' ∉ name.toList) (directory : String) :
    steps (join directory name) = steps directory ++ leading [name] := by
  by_cases named : directory = ""
  · rw [named, join_empty, steps_of_free free]
    rfl
  · exact steps_join named free

theorem getLast?_pieces_below {name : String} (free : '/' ∉ name.toList) (directory : String) :
    (pieces (join directory name)).getLast? = some name := by
  by_cases named : directory = ""
  · rw [named, join_empty, pieces_of_free free]
    rfl
  · rcases pieces_join named free with last | ⟨front, _, _, last⟩ <;>
      rw [last, List.getLast?_concat]

theorem below_ne_empty {name : String} (free : '/' ∉ name.toList) (named : name ≠ "")
    (directory : String) : join directory name ≠ "" := by
  by_cases own : directory = ""
  · rwa [own, join_empty]
  · exact join_ne_empty own free

/-! ### Places -/

def origin (path : String) : List (Nat × String) :=
  if path.startsWith "/" then [(0, "")]
  else if (pieces path).head? = some "." then [(1, "")]
  else []

def placeOf (step : String) : Nat × String :=
  if step = ".." then (2, "") else (3, step)

theorem places_eq (path : String) : places path = origin path ++ (steps path).map placeOf := rfl

theorem places_join {directory name : String} (named : directory ≠ "") (free : '/' ∉ name.toList) :
    places (join directory name) = places directory ++ (leading [name]).map placeOf := by
  rw [places_eq, places_eq, origin, origin, startsWith_join named free,
    head?_pieces_join named free, steps_join named free, List.map_append, List.append_assoc]

theorem placeOf_ne (step name : String) : placeOf step ≠ (1, name) := by
  rw [placeOf]
  split <;> simp

end RelayMesh.Files
