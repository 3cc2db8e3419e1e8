import RelayMesh.Proofs.Files.Literal
import RelayMesh.Proofs.Files.View

namespace RelayMesh.Files

/-! ### Runs that only look -/

section Runs

variable {σ α β : Type} {s : σ}

theorem gives_pure (s : σ) (a : α) : Gives s (pure a) a := rfl

theorem Gives.bind {run : StateM σ α} {next : α → StateM σ β} {a : α} {b : β}
    (first : Gives s run a) (second : Gives s (next a) b) : Gives s (run >>= next) b := by
  unfold Gives at first second ⊢
  change StateT.bind run next s = _
  rw [StateT.bind, first]
  exact second

theorem gives_forEach {run : α → StateM σ (List β)} {answer : α → List β} {xs : List α}
    (each : ∀ a ∈ xs, Gives s (run a) (answer a)) :
    Gives s (forEach run xs) (xs.flatMap answer) := by
  induction xs with
  | nil => exact gives_pure s []
  | cons a xs ih =>
    obtain ⟨own, others⟩ := List.forall_mem_cons.mp each
    rw [forEach, List.flatMap_cons]
    exact own.bind ((ih others).bind (gives_pure s _))

def Quiet (s : σ) (run : StateM σ α) : Prop :=
  ∃ a, Gives s run a

theorem quiet_pure (s : σ) (a : α) : Quiet s (pure a) :=
  ⟨a, gives_pure s a⟩

theorem Quiet.bind {run : StateM σ α} {next : α → StateM σ β} (first : Quiet s run)
    (second : ∀ a, Quiet s (next a)) : Quiet s (run >>= next) := by
  obtain ⟨a, answer⟩ := first
  obtain ⟨b, last⟩ := second a
  exact ⟨b, answer.bind last⟩

theorem quiet_forEach {run : α → StateM σ (List β)} (each : ∀ a, Quiet s (run a)) (xs : List α) :
    Quiet s (forEach run xs) := by
  induction xs with
  | nil => exact quiet_pure s []
  | cons a xs ih =>
    rw [forEach]
    exact (each a).bind fun _ => ih.bind fun _ => quiet_pure s _

end Runs

/-! ### One step of the search -/

section Steps

variable {m : Type → Type} [Monad m] [FileSystem m]

theorem below_literal (fuel : Nat) (rest : List Pattern) (path : String) {p : Pattern}
    {name : String} (literal : p.literal? = some name) :
    below (m := m) (fuel + 1) (p :: rest) path =
      (if name = "." ∨ name = ".." then isDirectory path else present (stepInto path name)) >>=
        fun found => if found then below fuel rest (stepInto path name) else pure [] := by
  rw [below]
  simp only [literal]
  split <;> rfl

theorem below_names (fuel : Nat) (rest : List Pattern) (path : String) {p : Pattern}
    (several : p.literal? = none) : below (m := m) (fuel + 1) (p :: rest) path =
      isDirectory path >>= fun directory => if directory then do
        let names ← sortedNames path
        let dots ← forEach (fun name => below fuel rest (join path name)) (dotNames p)
        let others ← forEach (fun name => visit fuel (p :: rest) (stepInto path name)) names
        return dots ++ others
      else pure [] := by
  rw [below]
  simp only [several]

theorem visit_name (fuel : Nat) (patterns : List Pattern) (path : String) {p : Pattern}
    {rest : List Pattern} (next : collapse patterns = p :: rest) (single : p.isRecursive = false) :
    visit (m := m) (fuel + 1) patterns path = compareName fuel (p :: rest) path := by
  rw [visit]
  simp only [next, single, Bool.false_eq_true, if_false]

theorem visit_recursive (fuel : Nat) (patterns : List Pattern) (path : String) {p : Pattern}
    {rest : List Pattern} (next : collapse patterns = p :: rest) (deep : p.isRecursive = true) :
    visit (m := m) (fuel + 1) patterns path =
      isDirectory path >>= fun directory =>
        (if rest = [] then pure (if directory then [path] else [])
          else compareName fuel rest path) >>= fun here =>
            (if directory then below fuel (p :: rest) path else pure []) >>= fun deeper =>
              pure (here ++ deeper) := by
  rw [visit]
  simp only [next, deep, if_true]
  congr 1
  funext directory
  cases rest <;> cases directory <;> rfl

theorem compareName_cons (fuel : Nat) (p : Pattern) (rest : List Pattern) (path : String) :
    compareName (m := m) (fuel + 1) (p :: rest) path =
      if (lastName? path).any fun name => p.accepts name.toList then
        (if rest = [] then pure [path] else below fuel rest path)
      else pure [] := by
  cases rest <;> rfl

end Steps

/-! ### Looking around -/

def View.sortedNames (v : View) (path : String) : List String :=
  ((v.names path).getD []).mergeSort fun a b => a ≤ b

section Shown

variable {σ : Type} [FileSystem (StateM σ)] {v : View} {s : σ} (shown : v.ShownIn s)
include shown

theorem gives_present (path : String) : Gives s (present path) (v.info path).isSome :=
  (shown.info path).bind (gives_pure s _)

theorem gives_isDirectory (path : String) : Gives s (isDirectory path) (v.isDirectory path) :=
  (shown.info path).bind (gives_pure s _)

theorem gives_sortedNames (path : String) : Gives s (sortedNames path) (v.sortedNames path) := by
  obtain ⟨answer, listed, same⟩ := shown.list path
  rw [sortedNames, View.sortedNames, ← same]
  refine listed.bind ?_
  cases answer with
  | error e =>
    change Gives s (pure []) (List.mergeSort [] _)
    rw [List.mergeSort_nil]
    exact gives_pure s []
  | ok names => exact gives_pure s _

theorem quiet_search (fuel : Nat) : (∀ patterns path, Quiet s (below fuel patterns path)) ∧
    (∀ patterns path, Quiet s (visit fuel patterns path)) ∧
      ∀ patterns path, Quiet s (compareName fuel patterns path) := by
  induction fuel with
  | zero =>
    refine ⟨fun patterns path => ?_, fun patterns path => ?_, fun patterns path => ?_⟩
    · rw [below]
      exact quiet_pure s []
    · rw [visit]
      exact quiet_pure s []
    · rw [compareName]
      exact quiet_pure s []
  | succ fuel ih =>
    obtain ⟨quietBelow, quietVisit, quietName⟩ := ih
    have directory (path : String) : Quiet s (isDirectory path) := ⟨_, gives_isDirectory shown path⟩
    refine ⟨fun patterns path => ?_, fun patterns path => ?_, fun patterns path => ?_⟩
    · cases patterns with
      | nil => exact quiet_pure s [path]
      | cons p rest =>
        cases literal : p.literal? with
        | some name =>
          rw [below_literal fuel rest path literal]
          refine Quiet.bind ?_ fun found => ?_
          · split
            · exact directory path
            · exact ⟨_, gives_present shown _⟩
          · split
            · exact quietBelow rest _
            · exact quiet_pure s []
        | none =>
          rw [below_names fuel rest path literal]
          refine (directory path).bind fun found => ?_
          split
          · refine Quiet.bind ⟨_, gives_sortedNames shown path⟩ fun names => ?_
            refine (quiet_forEach (fun name => quietBelow rest _) _).bind fun dots => ?_
            exact (quiet_forEach (fun name => quietVisit (p :: rest) _) _).bind fun others =>
              quiet_pure s _
          · exact quiet_pure s []
    · cases next : collapse patterns with
      | nil =>
        rw [visit, next]
        exact quiet_pure s []
      | cons p rest =>
        cases deep : p.isRecursive with
        | false =>
          rw [visit_name fuel patterns path next deep]
          exact quietName _ path
        | true =>
          rw [visit_recursive fuel patterns path next deep]
          refine (directory path).bind fun found => Quiet.bind ?_ fun here =>
            Quiet.bind ?_ fun deeper => quiet_pure s _
          · split
            · exact quiet_pure s _
            · exact quietName rest path
          · split
            · exact quietBelow _ path
            · exact quiet_pure s []
    · cases patterns with
      | nil => exact quiet_pure s []
      | cons p rest =>
        rw [compareName_cons]
        split
        · split
          · exact quiet_pure s [path]
          · exact quietBelow rest path
        · exact quiet_pure s []

theorem quiet_expand (text : String) : Quiet s (expand text) := by
  rw [expand]
  split
  · exact quiet_pure s _
  · exact Quiet.bind ((quiet_search shown _).1 _ _) fun found => quiet_pure s _

end Shown

/-! ### A directory that stands for itself -/

def View.pathsIn (v : View) (directory : String) : List String :=
  (v.sortedNames directory).map (stepInto directory)

def View.finds (v : View) (path piece : String) : Bool :=
  if piece = "." ∨ piece = ".." then v.isDirectory path else (v.info (stepInto path piece)).isSome

theorem Passable.name {path name : String} (way : Passable path ["*"]) (plain : PlainName name) :
    Passable path [name] := by
  rcases way with outside | ⟨here, _⟩
  · exact .inl outside
  · refine .inr ⟨here, ?_⟩
    rw [List.dropWhile_cons_of_neg (by simpa using plain.noDot)]
    simpa using plain.nonempty

theorem Passable.lastName? {path name : String} (way : Passable path ["*"])
    (plain : PlainName name) : lastName? (stepInto path name) = some name := by
  obtain ⟨_, _, steps⟩ := (way.name plain).step plain.noSlash
  rw [Files.lastName?, steps, plain.leading, List.getLast?_concat]
  simp [plain.noParent]

theorem gives_visit_star {σ : Type} [FileSystem (StateM σ)] (s : σ) {path name : String}
    (way : Passable path ["*"]) (plain : PlainName name) (fuel : Nat) :
    Gives s (visit (fuel + 2) [Pattern.star] (stepInto path name)) [stepInto path name] := by
  have fits : ((lastName? (stepInto path name)).any fun name =>
      Pattern.star.accepts name.toList) = true := by
    rw [way.lastName? plain]
    exact Pattern.accepts_star name.toList
  rw [visit_name (fuel + 1) [Pattern.star] _ rfl rfl, compareName_cons, if_pos fits, if_pos rfl]
  exact gives_pure s _

section Lawful

variable {v : View} (lawful : v.Lawful)
include lawful

theorem pathsIn_eq_nil {path : String} (other : v.isDirectory path = false) :
    v.pathsIn path = [] := by
  cases listed : v.names path with
  | none => rw [View.pathsIn, View.sortedNames, listed, Option.getD_none, List.mergeSort_nil]; rfl
  | some names =>
    rw [lawful.directory path names listed] at other
    contradiction

theorem plain_of_sortedNames {path name : String} (member : name ∈ v.sortedNames path) :
    PlainName name := by
  rw [View.sortedNames, List.mem_mergeSort] at member
  cases listed : v.names path with
  | none => rw [listed] at member; contradiction
  | some names =>
    rw [listed] at member
    exact lawful.plain path names listed name member

theorem directory_of_step {path piece : String} {ahead : List String}
    (way : Passable path (piece :: ahead)) (free : '/' ∉ piece.toList)
    (directory : v.isDirectory (stepInto path piece) = true) : v.isDirectory path = true := by
  rcases way with outside | ⟨rfl, _⟩
  · rw [outside.stepInto_eq] at directory
    exact lawful.parent path piece outside.named free (Option.isSome_of_any directory)
  · exact lawful.working

theorem finds_of_directory {path piece : String} {ahead : List String}
    (way : Passable path (piece :: ahead)) (free : '/' ∉ piece.toList)
    (directory : v.isDirectory (stepInto path piece) = true) : v.finds path piece = true := by
  rw [View.finds]
  split
  · exact directory_of_step lawful way free directory
  · exact Option.isSome_of_any directory

theorem directory_of_arrive {path : String} {front behind : List String}
    (way : Passable path (front ++ behind)) (free : ∀ piece ∈ front, '/' ∉ piece.toList)
    (directory : v.isDirectory (arrive path front) = true) : v.isDirectory path = true := by
  induction front generalizing path with
  | nil => exact directory
  | cons piece front ih =>
    obtain ⟨first, others⟩ := List.forall_mem_cons.mp free
    exact directory_of_step lawful way first (ih (way.step first).1 others directory)

variable {σ : Type} [FileSystem (StateM σ)] {s : σ} (shown : v.ShownIn s)
include shown

theorem gives_below_star {path : String} (way : Passable path ["*"]) (fuel : Nat) :
    Gives s (below (fuel + 3) [Pattern.star] path) (v.pathsIn path) := by
  rw [below_names (fuel + 2) [] path rfl]
  refine (gives_isDirectory shown path).bind ?_
  split
  · refine (gives_sortedNames shown path).bind ?_
    refine (gives_pure s []).bind ?_
    have each : ∀ name ∈ v.sortedNames path, Gives s
        (visit (fuel + 2) [Pattern.star] (stepInto path name)) [stepInto path name] :=
      fun name member => gives_visit_star s way (plain_of_sortedNames lawful member) fuel
    refine (gives_forEach each).bind ?_
    rw [List.nil_append, View.pathsIn, List.map_eq_flatMap]
    exact gives_pure s _
  · rename_i other
    rw [pathsIn_eq_nil lawful (Bool.not_eq_true _ ▸ other)]
    exact gives_pure s []

/-- The search looks up one piece after the other. If one of them is missing, nothing is listed at
the end of the way either. -/
theorem gives_below_literal {path : String} {front : List String}
    (way : Passable path (front ++ ["*"])) (free : ∀ piece ∈ front, '/' ∉ piece.toList)
    (fuel : Nat) : Gives s
      (below (front.length + (fuel + 3)) (front.map Pattern.ofText ++ [Pattern.star]) path)
      (v.pathsIn (arrive path front)) := by
  induction front generalizing path with
  | nil =>
    rw [List.length_nil, Nat.zero_add]
    exact gives_below_star lawful shown way fuel
  | cons piece front ih =>
    obtain ⟨first, others⟩ := List.forall_mem_cons.mp free
    have onward := (way.step first).1
    rw [List.length_cons, Nat.add_right_comm, List.map_cons, List.cons_append,
      below_literal _ _ _ (Pattern.literal?_ofText piece)]
    have looked : Gives s (if piece = "." ∨ piece = ".." then isDirectory path
        else present (stepInto path piece)) (v.finds path piece) := by
      rw [View.finds]
      split
      · exact gives_isDirectory shown path
      · exact gives_present shown _
    refine looked.bind ?_
    change Gives s _ (v.pathsIn (arrive (stepInto path piece) front))
    cases found : v.finds path piece with
    | true => exact ih onward others
    | false =>
      have other : v.isDirectory (arrive (stepInto path piece) front) = false := by
        rw [Bool.eq_false_iff]
        intro last
        rw [finds_of_directory lawful way first (directory_of_arrive lawful onward others last)]
          at found
        contradiction
      rw [pathsIn_eq_nil lawful other]
      exact gives_pure s []

end Lawful

/-- The directory that a path names; the empty path stands for the working directory. -/
def directoryAt (path : String) : String :=
  if path = "" then workingDirectory else path

theorem startsWith_directoryAt (path : String) :
    (directoryAt path).startsWith "/" = path.startsWith "/" := by
  rw [directoryAt]
  split
  · rename_i empty
    rw [empty, relative_workingDirectory, relative_of_free (by decide)]
  · rfl

theorem steps_directoryAt (path : String) : steps (directoryAt path) = steps path := by
  rw [directoryAt]
  split
  · rename_i empty
    rw [empty]
    rfl
  · rfl

theorem directoryAt_ne_empty (path : String) : directoryAt path ≠ "" := by
  rw [directoryAt]
  split
  · decide
  · assumption

theorem Literal.passable_pieces {directory : String} (literal : Literal directory) : ∃ ahead start,
    Pattern.ofPath (join directory "*") = .ok (ahead.map Pattern.ofText ++ [Pattern.star]) ∧
      start = (if directory.startsWith "/" then "/" else workingDirectory) ∧
      (∀ piece ∈ ahead, '/' ∉ piece.toList) ∧ Passable start (ahead ++ ["*"]) ∧
      start.startsWith "/" = directory.startsWith "/" ∧
      steps start ++ leading ahead = steps directory := by
  obtain ⟨front, split, steps, inside, root⟩ := Literal.pieces_pattern directory
  have patterns := Literal.ofPath_pattern literal.plain split inside root
  have free : ∀ piece ∈ front, '/' ∉ piece.toList := fun piece member =>
    (of_mem_pieces (inside member)).1
  refine ⟨_, _, patterns, rfl, ?_⟩
  cases absolute : directory.startsWith "/" with
  | true =>
    obtain ⟨rest, rfl⟩ := List.head?_eq_some_iff.mp (root absolute)
    have slash : "/".startsWith "/" = true := startsWith_slash.mpr rfl
    exact ⟨(List.forall_mem_cons.mp free).2, .inl (outside_of_absolute slash), slash, steps⟩
  | false =>
    have dots := literal.passable absolute
    rw [split] at dots
    exact ⟨free, .inr ⟨rfl, dots⟩, relative_workingDirectory, steps⟩

theorem gives_expand {v : View} (lawful : v.Lawful) {σ : Type} [FileSystem (StateM σ)] {s : σ}
    (shown : v.ShownIn s) {directory : String} (literal : Literal directory) : ∃ found,
      Passable found ["*"] ∧ SameWay found (directoryAt directory) ∧
        Gives s (expand (join directory "*")) (.ok (v.pathsIn found)) := by
  obtain ⟨ahead, start, patterns, begins, free, way, root, steps⟩ := literal.passable_pieces
  obtain ⟨found, foundRoot, foundSteps⟩ := way.arrive free
  refine ⟨arrive start ahead, found, ⟨found.named, directoryAt_ne_empty directory, ?_, ?_⟩, ?_⟩
  · rw [foundRoot, root, startsWith_directoryAt]
  · rw [foundSteps, steps, steps_directoryAt]
  · obtain ⟨fuel, enough⟩ : ∃ fuel, 3 * ((ahead.map Pattern.ofText ++ [Pattern.star]).length +
        maxDepth) = ahead.length + (fuel + 3) := by
      rw [List.length_append, List.length_map, List.length_singleton, maxDepth]
      exact ⟨2 * ahead.length + 12288, by omega⟩
    have search := gives_below_literal lawful shown way free fuel
    rw [← enough] at search
    rw [expand, patterns, startsWith_below Literal.plain_star.noSlash]
    dsimp only
    rw [← begins]
    exact search.bind (gives_pure s _)

/-! ### A directory with wildcards -/

/-- A name with wildcards stands for all names in the working directory that fit it, and not for
itself. -/
theorem gives_expand_wildcards {v : View} (lawful : v.Lawful) {σ : Type} [FileSystem (StateM σ)]
    {s : σ} (shown : v.ShownIn s) {directory : String} (relative : directory.startsWith "/" = false)
    {p : Pattern} (read : Pattern.ofPath (join directory "*") = .ok [p, Pattern.star])
    (wild : p.literal? = none) (single : p.isRecursive = false) (noDots : dotNames p = []) :
    Gives s (expand (join directory "*")) (.ok ((v.sortedNames workingDirectory).flatMap
      fun name => if p.accepts name.toList then v.pathsIn name else [])) := by
  have names : ∀ name ∈ v.sortedNames workingDirectory, ∀ fuel,
      Gives s (visit (fuel + 5) [p, Pattern.star] (stepInto workingDirectory name))
        (if p.accepts name.toList then v.pathsIn name else []) := by
    intro name member fuel
    have plain := plain_of_sortedNames lawful member
    have way : Passable workingDirectory ["*"] := .inr ⟨rfl, by decide⟩
    have still : collapse [p, Pattern.star] = [p, Pattern.star] := by
      rw [collapse, single]
      rfl
    rw [visit_name _ _ _ still single, compareName_cons, way.lastName? plain,
      stepInto_workingDirectory, Option.any_some]
    split
    · rw [if_neg (List.cons_ne_nil _ _)]
      have outside := outside_of_free plain.noSlash plain.onward
      exact gives_below_star lawful shown (.inl outside) fuel
    · exact gives_pure s []
  rw [expand, read, startsWith_below Literal.plain_star.noSlash, relative]
  refine Gives.bind ?_ (gives_pure s _)
  have enough : 3 * ([p, Pattern.star].length + maxDepth) = 12288 + 5 + 1 := by
    rw [List.length_cons, List.length_singleton, maxDepth]
  rw [enough, if_neg Bool.false_ne_true, below_names _ _ _ wild, noDots]
  refine (gives_isDirectory shown workingDirectory).bind ?_
  rw [if_pos lawful.working]
  refine (gives_sortedNames shown workingDirectory).bind ((gives_pure s []).bind ?_)
  refine (gives_forEach fun name member => names name member 12288).bind ?_
  rw [List.nil_append]
  exact gives_pure s _

end RelayMesh.Files
