import RelayMesh.Files.Expansion
import RelayMesh.Proofs.Files.Path

/-! Directories that stand for themselves when they become part of a pattern, and the way along
their pieces. Most do, but a wildcard in a name stands for other names too, and behind single dots
at the beginning an empty piece is looked up as the empty path, which leads nowhere. -/

namespace RelayMesh.Files

theorem relative_workingDirectory : workingDirectory.startsWith "/" = false :=
  relative_of_free (by decide)

theorem places_workingDirectory : places workingDirectory = [(1, "")] := by
  rw [places_eq, origin, relative_workingDirectory]
  rfl

theorem stepInto_workingDirectory (piece : String) : stepInto workingDirectory piece = piece :=
  if_pos rfl

/-- The path is not that of the working directory, so what is below it is joined to it. -/
structure Outside (path : String) : Prop where
  named : path ≠ ""
  apart : places path ≠ places workingDirectory

theorem Outside.stepInto_eq {path : String} (outside : Outside path) (piece : String) :
    stepInto path piece = join path piece :=
  if_neg outside.apart

theorem Outside.join {path piece : String} (outside : Outside path) (free : '/' ∉ piece.toList) :
    Outside (join path piece) := by
  refine ⟨join_ne_empty outside.named free, ?_⟩
  rw [places_join outside.named free]
  by_cases still : piece = "" ∨ piece = "."
  · rw [leading_cons_still still]
    simpa [leading] using outside.apart
  · rw [leading_cons still, places_workingDirectory]
    intro same
    have last := congrArg List.getLast? same
    simp [leading, placeOf_ne] at last

theorem outside_of_free {piece : String} (free : '/' ∉ piece.toList)
    (onward : ¬ (piece = "" ∨ piece = ".")) : Outside piece := by
  obtain ⟨named, noDot⟩ := not_or.mp onward
  refine ⟨named, ?_⟩
  rw [places_eq, origin, relative_of_free free, pieces_of_free free, steps_of_free free,
    leading_cons onward, places_workingDirectory]
  simp [leading, noDot, placeOf_ne]

theorem outside_of_absolute {path : String} (absolute : path.startsWith "/" = true) :
    Outside path := by
  constructor
  · rintro rfl
    rw [startsWith_slash] at absolute
    cases absolute
  · rw [places_eq, origin, absolute, places_workingDirectory]
    simp

/-! ### Ways -/

/-- The pieces lead on from the path: it is outside of the working directory, or they begin with
single dots, behind which none is empty. -/
def Passable (path : String) (ahead : List String) : Prop :=
  Outside path ∨
    path = workingDirectory ∧ (ahead.dropWhile (· == ".")).head? ≠ some ""

def arrive (path : String) (ahead : List String) : String :=
  ahead.foldl stepInto path

namespace Passable

theorem named {path : String} {ahead : List String} (way : Passable path ahead) : path ≠ "" := by
  rcases way with outside | ⟨rfl, _⟩
  · exact outside.named
  · decide

theorem step {path piece : String} {ahead : List String} (way : Passable path (piece :: ahead))
    (free : '/' ∉ piece.toList) : Passable (stepInto path piece) ahead ∧
      (stepInto path piece).startsWith "/" = path.startsWith "/" ∧
      steps (stepInto path piece) = steps path ++ leading [piece] := by
  rcases way with outside | ⟨rfl, dots⟩
  · rw [outside.stepInto_eq]
    exact ⟨.inl (outside.join free), startsWith_join outside.named free,
      steps_join outside.named free⟩
  · rw [stepInto_workingDirectory, relative_of_free free, relative_workingDirectory,
      steps_of_free free]
    refine ⟨?_, rfl, rfl⟩
    by_cases dot : piece = "."
    · subst dot
      exact .inr ⟨rfl, dots⟩
    · rw [List.dropWhile_cons_of_neg (by simpa using dot)] at dots
      exact .inl (outside_of_free free (not_or.mpr ⟨fun empty => dots (congrArg some empty), dot⟩))

theorem arrive {path : String} {front behind : List String} (way : Passable path (front ++ behind))
    (free : ∀ piece ∈ front, '/' ∉ piece.toList) : Passable (arrive path front) behind ∧
      (arrive path front).startsWith "/" = path.startsWith "/" ∧
      steps (Files.arrive path front) = steps path ++ leading front := by
  induction front generalizing path with
  | nil => exact ⟨way, rfl, (List.append_nil _).symm⟩
  | cons piece front ih =>
    obtain ⟨first, others⟩ := List.forall_mem_cons.mp free
    obtain ⟨onward, root, steps⟩ := way.step first
    obtain ⟨last, lastRoot, lastSteps⟩ := ih onward others
    refine ⟨last, lastRoot.trans root, lastSteps.trans ?_⟩
    rw [steps, List.append_assoc, ← leading_append]
    rfl

end Passable

/-! ### Patterns -/

namespace Pattern

def ofText (text : String) : Pattern :=
  text.toList.map .char

def star : Pattern := [.anySequence]

def isWildcard (c : Char) : Bool :=
  c == '*' || c == '?' || c == '['

theorem literal?_cons (c : Char) (p : Pattern) : literal? (.char c :: p) =
    (literal? p).map fun text => String.ofList (c :: text.toList) := by
  rw [literal?, literal?, List.mapM_cons]
  generalize (List.mapM _ p : Option (List Char)) = letters
  cases letters with
  | none => rfl
  | some cs =>
    rw [Option.map_some, Option.map_some, String.toList_ofList]
    rfl

theorem literal?_chars (cs : List Char) : literal? (cs.map .char) = some (String.ofList cs) := by
  induction cs with
  | nil => rfl
  | cons c cs ih => rw [List.map_cons, literal?_cons, ih, Option.map_some, String.toList_ofList]

theorem literal?_ofText (text : String) : (ofText text).literal? = some text := by
  rw [ofText, literal?_chars, String.ofList_toList]

theorem accepts_star (name : List Char) : accepts star name = true := by
  have later : ∀ bs : List Bool, (orLater (bs ++ [true])).headD false = true := by
    intro bs
    induction bs with
    | nil => rfl
    | cons b bs ih =>
      change (b || (orLater (bs ++ [true])).headD false) = true
      rw [ih, Bool.or_true]
  exact later _

theorem tokensFrom_char {c : Char} (plain : isWildcard c = false) (fuel position : Nat)
    (atStart : Bool) (rest : List Char) : tokensFrom (fuel + 1) position atStart (c :: rest) =
      (tokensFrom fuel (position + 1) (c == '/') rest).map (.char c :: ·) := by
  simp only [isWildcard, Bool.or_eq_false_iff, beq_eq_false_iff_ne] at plain
  obtain ⟨⟨star, question⟩, bracket⟩ := plain
  have own : tokensFrom (fuel + 1) position atStart (c :: rest) = do
      return .char c :: (← tokensFrom fuel (position + 1) (c == '/') rest) := by
    rw [tokensFrom]
    · exact question
    · exact star
    · exact bracket
  rw [own]
  cases tokensFrom fuel (position + 1) (c == '/') rest <;> rfl

theorem tokensFrom_append {cs : List Char} (plain : ∀ c ∈ cs, isWildcard c = false)
    (fuel position : Nat) (atStart : Bool) (rest : List Char) : ∃ next start,
      tokensFrom (cs.length + fuel) position atStart (cs ++ rest) =
        (tokensFrom fuel next start rest).map (cs.map .char ++ ·) := by
  induction cs generalizing position atStart with
  | nil =>
    refine ⟨position, atStart, ?_⟩
    rw [List.length_nil, Nat.zero_add, List.nil_append]
    cases tokensFrom fuel position atStart rest <;> rfl
  | cons c cs ih =>
    obtain ⟨own, others⟩ := List.forall_mem_cons.mp plain
    obtain ⟨next, start, read⟩ := ih others (position + 1) (c == '/')
    refine ⟨next, start, ?_⟩
    rw [List.length_cons, Nat.add_right_comm, List.cons_append, tokensFrom_char own, read]
    cases tokensFrom fuel next start rest <;> rfl

theorem ofChars_plain {cs : List Char} (plain : ∀ c ∈ cs, isWildcard c = false) :
    ofChars cs = .ok (cs.map .char) := by
  obtain ⟨next, start, read⟩ := tokensFrom_append plain 0 0 true []
  rw [List.append_nil, Nat.add_zero] at read
  rw [ofChars, read, tokensFrom]
  exact congrArg Except.ok (List.append_nil _)

theorem ofChars_star {cs : List Char} (plain : ∀ c ∈ cs, isWildcard c = false) :
    ofChars (cs ++ ['*']) = .ok (cs.map .char ++ star) := by
  obtain ⟨next, start, read⟩ := tokensFrom_append plain 1 0 true ['*']
  rw [ofChars, List.length_append, List.length_singleton, read]
  rfl

end Pattern

/-- The directory stands for itself in a pattern: it has no wildcards, and no empty piece right
behind single dots at its beginning. -/
structure Literal (directory : String) : Prop where
  plain : ∀ c ∈ directory.toList, Pattern.isWildcard c = false
  passable : directory.startsWith "/" = false →
    ((pieces (join directory "*")).dropWhile (· == ".")).head? ≠ some ""

instance (directory : String) : Decidable (Literal directory) :=
  decidable_of_iff ((directory.toList.all fun c => !Pattern.isWildcard c) = true ∧
      (directory.startsWith "/" = false →
        ((pieces (join directory "*")).dropWhile (· == ".")).head? ≠ some ""))
    ⟨fun ⟨plain, passable⟩ => ⟨by simpa using plain, passable⟩,
      fun literal => ⟨by simpa using literal.plain, literal.passable⟩⟩

namespace Literal

variable {directory : String}

theorem plain_star : PlainName "*" := by decide

theorem pieces_pattern (directory : String) : ∃ front,
    pieces (join directory "*") = front ++ ["*"] ∧ leading front = steps directory ∧
      front ⊆ pieces directory ∧ (directory.startsWith "/" = true → front.head? = some "") := by
  by_cases named : directory = ""
  · subst named
    refine ⟨[], ?_, rfl, List.nil_subset _, ?_⟩
    · rw [join, if_pos (.inr rfl), pieces_of_free plain_star.noSlash]
      rfl
    · intro absolute
      rw [startsWith_slash] at absolute
      cases absolute
  · rcases pieces_join named plain_star.noSlash with last | ⟨front, some, own, last⟩
    · exact ⟨pieces directory, last, rfl, List.Subset.refl _, head?_pieces_of_absolute⟩
    · refine ⟨front, last, ?_, own ▸ List.subset_append_left front [""], ?_⟩
      · change _ = leading (pieces directory)
        rw [own, leading_append]
        exact (List.append_nil _).symm
      · intro absolute
        rw [← head?_pieces_of_absolute absolute, own, List.head?_append_of_ne_nil _ some]

theorem toList_pattern (plain : ∀ c ∈ directory.toList, Pattern.isWildcard c = false) :
    ∃ cs, (join directory "*").toList = cs ++ ['*'] ∧ ∀ c ∈ cs, Pattern.isWildcard c = false := by
  by_cases named : directory = ""
  · subst named
    refine ⟨[], ?_, nofun⟩
    rw [join_empty]
    rfl
  · rw [toList_join named plain_star.noSlash]
    split
    · exact ⟨directory.toList, rfl, plain⟩
    · refine ⟨directory.toList ++ ['/'], by simp, fun c member => ?_⟩
      rcases List.mem_append.mp member with own | slash
      · exact plain c own
      · rw [List.mem_singleton.mp slash]
        decide

theorem mapM_ofChars {front : List String}
    (plain : ∀ piece ∈ front, ∀ c ∈ piece.toList, Pattern.isWildcard c = false) :
    (front.map String.toList ++ [['*']]).mapM Pattern.ofChars =
      .ok (front.map Pattern.ofText ++ [Pattern.star]) := by
  induction front with
  | nil => rfl
  | cons piece front ih =>
    obtain ⟨own, others⟩ := List.forall_mem_cons.mp plain
    rw [List.map_cons, List.cons_append, List.mapM_cons, ih others, Pattern.ofChars_plain own]
    rfl

theorem ofPath_pattern (plain : ∀ c ∈ directory.toList, Pattern.isWildcard c = false)
    {front : List String} (split : pieces (join directory "*") = front ++ ["*"])
    (inside : front ⊆ pieces directory)
    (root : directory.startsWith "/" = true → front.head? = some "") :
    Pattern.ofPath (join directory "*") =
      .ok ((if directory.startsWith "/" then front.drop 1 else front).map Pattern.ofText
        ++ [Pattern.star]) := by
  obtain ⟨cs, letters, plainText⟩ := toList_pattern plain
  have whole : Pattern.ofChars (join directory "*").toList =
      .ok (cs.map .char ++ Pattern.star) := by
    rw [letters, Pattern.ofChars_star plainText]
  have all : Text.splitOn '/' (join directory "*").toList = front.map String.toList ++ [['*']] := by
    have own := congrArg (List.map String.toList) split
    rw [pieces, List.map_map] at own
    simpa using own
  have free : ∀ piece ∈ front, ∀ c ∈ piece.toList, Pattern.isWildcard c = false :=
    fun piece member c letter => plain c ((of_mem_pieces (inside member)).2 letter)
  rw [Pattern.ofPath, whole, all, startsWith_below plain_star.noSlash]
  simp only [bind, Except.bind, List.getLast?_concat, Option.some.injEq, List.cons_ne_nil,
    if_false]
  split
  · rename_i absolute
    obtain ⟨rest, rfl⟩ := List.head?_eq_some_iff.mp (root absolute)
    exact mapM_ofChars (List.forall_mem_cons.mp free).2
  · exact mapM_ofChars free

end Literal

end RelayMesh.Files
