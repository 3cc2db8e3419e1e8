import Mathlib.Data.List.Induction
import RelayMesh.Files.Tree
import RelayMesh.Proofs.Files.Path

namespace RelayMesh.Files.FileTree

variable {t u : FileTree}

/-! ### Contents -/

theorem content?_nil (t : FileTree) : t.content? [] = some .directory := rfl

theorem content?_of_ne {location : Location} (below : location ≠ []) :
    t.content? location = (t.entry? location).map (·.content) :=
  if_neg below

theorem content?_put {location : Location} (below : location ≠ []) (content : Content)
    (other : Location) :
    (t.put location content).content? other =
      if other = location then some content else t.content? other := by
  by_cases root : other = []
  · rw [root, if_neg (Ne.symm below), content?_nil, content?_nil]
  rw [content?_of_ne root, content?_of_ne root]
  by_cases present : (t.entry? location).isSome = true
  · obtain ⟨e, found⟩ := Option.isSome_iff_exists.mp present
    have entry : FileTree.entry? (t.put location content) other = (t.entry? other).map fun e =>
        if e.location = location then { e with content := content } else e := by
      rw [put, if_pos present, entry?, entry?, List.find?_map]
      congr 2
      funext e
      simp only [Function.comp_apply]
      split <;> rfl
    rw [entry, Option.map_map]
    split
    · rename_i here
      have stands : e.location = location := by simpa using List.find?_some found
      rw [here, found, Option.map_some, Function.comp_apply, if_pos stands]
    · rename_i elsewhere
      cases found : t.entry? other with
      | none => rfl
      | some e =>
        have stands : e.location = other := by simpa using List.find?_some found
        rw [Option.map_some, Function.comp_apply, if_neg (stands ▸ elsewhere)]
        rfl
  · have entry : FileTree.entry? (t.put location content) other =
        (t.entry? other).or
          (if location == other then some ⟨location, content, t.clock⟩ else none) := by
      rw [put, if_neg present, entry?, entry?, List.find?_append]
      simp only [List.find?_cons, List.find?_nil]
      cases location == other <;> rfl
    rw [entry]
    by_cases here : other = location
    · rw [here, Option.not_isSome_iff_eq_none.mp present, if_pos rfl, if_pos (beq_self_eq_true _)]
      rfl
    · rw [if_neg here, if_neg (by simpa using Ne.symm here), Option.or_none]

theorem working_put (location : Location) (content : Content) :
    (t.put location content).working = t.working := by
  rw [put]
  split <;> rfl

theorem mem_namesIn {location : Location} {name : String} :
    name ∈ t.namesIn location ↔ (t.content? (location ++ [name])).isSome = true := by
  rw [content?_of_ne (List.append_ne_nil_of_right_ne_nil _ (List.cons_ne_nil _ _)),
    Option.isSome_map, entry?, List.find?_isSome, namesIn, List.mem_filterMap]
  constructor
  · rintro ⟨e, listed, named⟩
    split at named
    · rename_i parent
      refine ⟨e, listed, beq_iff_eq.mpr ?_⟩
      obtain ⟨front, split⟩ := List.getLast?_eq_some_iff.mp named
      rw [split, List.dropLast_concat] at parent
      rw [split, parent]
    · contradiction
  · rintro ⟨e, listed, stands⟩
    refine ⟨e, listed, ?_⟩
    rw [beq_iff_eq.mp stands, List.dropLast_concat, if_pos rfl, List.getLast?_concat]

/-! ### Ways -/

def follow (start : Location) (piece : String) : Location :=
  if piece = "" ∨ piece = "." then start
  else if piece = ".." then start.dropLast else start ++ [piece]

theorem follow_still {piece : String} (still : piece = "" ∨ piece = ".") (start : Location) :
    follow start piece = start :=
  if_pos still

theorem follow_onward {piece : String} (onward : ¬ (piece = "" ∨ piece = "."))
    (start : Location) :
    follow start piece = if piece = ".." then start.dropLast else start ++ [piece] :=
  if_neg onward

theorem follow_append_leading {piece : String} (down : piece ≠ "..") (start : Location)
    (rest : List String) :
    follow start piece ++ leading rest = start ++ leading (piece :: rest) := by
  by_cases still : piece = "" ∨ piece = "."
  · rw [follow_still still, leading_cons_still still]
  · rw [follow_onward still, if_neg down, leading_cons still, List.append_assoc,
      List.singleton_append]

theorem walk_cons (start : Location) (piece : String) (rest : List String) :
    t.walk start (piece :: rest) =
      match t.content? start with
      | none => .error .notFound
      | some (.file _) => .error .notADirectory
      | some .directory => t.walk (follow start piece) rest := by
  have onward : (if piece = "" ∨ piece = "." then t.walk start rest
      else if piece = ".." then t.walk start.dropLast rest else t.walk (start ++ [piece]) rest) =
      t.walk (follow start piece) rest := by
    rw [follow, apply_ite (t.walk · rest), apply_ite (t.walk · rest)]
  rw [walk]
  cases t.content? start with
  | none => rfl
  | some content =>
    cases content with
    | file => rfl
    | directory => exact onward

theorem walk_cons_ok {start last : Location} {piece : String} {rest : List String} :
    t.walk start (piece :: rest) = .ok last ↔
      t.content? start = some .directory ∧ t.walk (follow start piece) rest = .ok last := by
  rw [walk_cons]
  cases t.content? start with
  | none => simp
  | some content => cases content <;> simp

theorem walk_append (start : Location) (front back : List String) :
    t.walk start (front ++ back) = (t.walk start front).bind fun next => t.walk next back := by
  induction front generalizing start with
  | nil => rfl
  | cons piece rest ih =>
    rw [List.cons_append, walk_cons, walk_cons, ih]
    split <;> rfl

theorem walk_of_directories
    (stay : ∀ location, t.content? location = some .directory →
      u.content? location = some .directory)
    {start last : Location} {path : List String} (way : t.walk start path = .ok last) :
    u.walk start path = .ok last := by
  induction path generalizing start with
  | nil => exact way
  | cons piece rest ih =>
    obtain ⟨here, onward⟩ := walk_cons_ok.mp way
    exact walk_cons_ok.mpr ⟨stay start here, ih onward⟩

theorem directory_of_walk {start last : Location} {path : List String}
    (way : t.walk start path = .ok last) (directory : t.content? last = some .directory) :
    t.content? start = some .directory := by
  cases path with
  | nil =>
    cases way
    exact directory
  | cons piece rest => exact (walk_cons_ok.mp way).1

theorem start_congr {p q : String} (root : p.startsWith "/" = q.startsWith "/") :
    t.start p = t.start q := by
  rw [start, start, root]

theorem locate_eq_ok {path : String} {location : Location} :
    t.locate path = .ok location ↔
      path ≠ "" ∧ t.walk (t.start path) (pieces path) = .ok location := by
  rw [locate]
  by_cases empty : path = "" <;> simp [empty]

structure Opens (t : FileTree) (path : String) (location : Location) : Prop where
  way : t.locate path = .ok location
  directory : t.content? location = some .directory

theorem list_eq_ok {path : String} {names : List String} :
    t.list path = .ok names ↔ ∃ location, t.Opens path location ∧ t.namesIn location = names := by
  rw [list]
  constructor
  · intro listed
    cases way : t.locate path with
    | error e => rw [way] at listed; contradiction
    | ok location =>
      rw [way] at listed
      simp only [bind, Except.bind] at listed
      split at listed
      · contradiction
      · contradiction
      · rename_i directory
        cases listed
        exact ⟨location, ⟨way, directory⟩, rfl⟩
  · rintro ⟨location, opens, rfl⟩
    simp only [bind, Except.bind, opens.way, opens.directory]

/-! ### Below a directory -/

section Below

variable {directory name : String} (named : directory ≠ "")

include named

theorem locate_join (free : '/' ∉ name.toList) : t.locate (join directory name) =
    (t.locate directory).bind fun location => t.walk location [name] := by
  rw [locate, locate, if_neg (join_ne_empty named free), if_neg named,
    start_congr (startsWith_join named free)]
  rcases pieces_join named free with last | ⟨front, _, slash, last⟩
  · rw [last, walk_append]
  · rw [last, slash, walk_append, walk_append]
    cases t.walk (t.start directory) front with
    | error e => rfl
    | ok location =>
      cases here : t.content? location with
      | none => simp [Except.bind, walk, here]
      | some content => cases content <;> simp [Except.bind, walk, here]

theorem opens_of_locate_join (free : '/' ∉ name.toList) {last : Location}
    (way : t.locate (join directory name) = .ok last) :
    ∃ location, t.Opens directory location := by
  rw [locate_join named free] at way
  cases here : t.locate directory with
  | error e => rw [here] at way; contradiction
  | ok location =>
    rw [here] at way
    exact ⟨location, here, (walk_cons_ok.mp way).1⟩

variable (plain : PlainName name)
include plain

omit named in
theorem walk_plain {location : Location} : t.walk location [name] =
    match t.content? location with
    | none => .error .notFound
    | some (.file _) => .error .notADirectory
    | some .directory => .ok (location ++ [name]) := by
  rw [walk_cons, follow_onward plain.onward, if_neg plain.noParent]
  rfl

theorem Opens.locate_join {location : Location} (opens : t.Opens directory location) :
    t.locate (join directory name) = .ok (location ++ [name]) := by
  rw [FileTree.locate_join named plain.noSlash, opens.way]
  change t.walk location [name] = _
  rw [walk_plain plain, opens.directory]

theorem Opens.read_join {location : Location} (opens : t.Opens directory location) :
    t.read (join directory name) =
      match t.content? (location ++ [name]) with
      | none => .error .notFound
      | some .directory => .error .isADirectory
      | some (.file bytes) => .ok bytes := by
  rw [read, opens.locate_join named plain]
  rfl

theorem Opens.write_join {location : Location} (opens : t.Opens directory location)
    (bytes : List UInt8) :
    t.write (join directory name) bytes =
      if t.content? (location ++ [name]) = some .directory then (.error .isADirectory, t)
      else (.ok (), t.put (location ++ [name]) (.file bytes)) := by
  rw [write, opens.locate_join named plain]
  simp only [isDirectory, beq_iff_eq]

theorem locate_of_missing (missing : t.list directory = .error .notFound) :
    t.locate (join directory name) = .error .notFound := by
  rw [FileTree.locate_join named plain.noSlash]
  rw [list] at missing
  cases way : t.locate directory with
  | error e =>
    rw [way] at missing
    exact missing
  | ok location =>
    rw [way] at missing
    change t.walk location [name] = _
    rw [walk_plain plain]
    cases here : t.content? location with
    | none => rfl
    | some content =>
      cases content <;> simp [bind, Except.bind, here] at missing

end Below

theorem Opens.put {path : String} {here location : Location} (opens : t.Opens path here)
    (below : location ≠ []) (free : t.content? location ≠ some .directory) (bytes : List UInt8) :
    (t.put location (.file bytes)).Opens path here := by
  have stay : ∀ other, t.content? other = some .directory →
      (t.put location (.file bytes)).content? other = some .directory := by
    intro other directory
    rw [content?_put below, if_neg, directory]
    rintro rfl
    exact free directory
  obtain ⟨named, way⟩ := locate_eq_ok.mp opens.way
  refine ⟨locate_eq_ok.mpr ⟨named, ?_⟩, stay here opens.directory⟩
  rw [start, working_put, ← start]
  exact walk_of_directories stay way

/-! ### Creation -/

theorem makeDirectories_of_walk {start last : Location} {path : List String}
    (way : t.walk start path = .ok last) (directory : t.content? last = some .directory) :
    t.makeDirectories start (leading path) = (.ok (), t) := by
  induction path generalizing start with
  | nil => rfl
  | cons piece rest ih =>
    obtain ⟨_, onward⟩ := walk_cons_ok.mp way
    by_cases still : piece = "" ∨ piece = "."
    · rw [follow_still still] at onward
      rw [leading_cons_still still]
      exact ih onward
    · rw [leading_cons still, makeDirectories, ← follow_onward still,
        directory_of_walk onward directory]
      exact ih onward

theorem Opens.createDirectories {path : String} {location : Location}
    (opens : t.Opens path location) : t.createDirectories path = (.ok (), t) := by
  obtain ⟨-, way⟩ := locate_eq_ok.mp opens.way
  exact makeDirectories_of_walk way opens.directory

/-! ### Rooted trees -/

def Rooted (t : FileTree) : Prop :=
  ∀ location content, t.content? location = some content →
    t.content? location.dropLast = some .directory

theorem Rooted.front {front back : Location} (rooted : t.Rooted)
    (directory : t.content? (front ++ back) = some .directory) :
    t.content? front = some .directory := by
  induction back using List.reverseRecOn with
  | nil => rwa [List.append_nil] at directory
  | append_singleton back name ih =>
    have parent := rooted _ _ directory
    rw [← List.append_assoc, List.dropLast_concat] at parent
    exact ih parent

theorem Rooted.walk {start : Location} {path : List String} (rooted : t.Rooted)
    (descends : ".." ∉ path) (directory : t.content? (start ++ leading path) = some .directory) :
    t.walk start path = .ok (start ++ leading path) := by
  induction path generalizing start with
  | nil => exact congrArg Except.ok (List.append_nil start).symm
  | cons piece rest ih =>
    obtain ⟨down, descends⟩ := not_or.mp (List.mem_cons.not.mp descends)
    have here := rooted.front directory
    rw [← follow_append_leading (Ne.symm down)] at directory ⊢
    exact walk_cons_ok.mpr ⟨here, ih descends directory⟩

theorem eq_of_walk {start last : Location} {path : List String} (descends : ".." ∉ path)
    (way : t.walk start path = .ok last) : last = start ++ leading path := by
  induction path generalizing start with
  | nil =>
    cases way
    exact (List.append_nil _).symm
  | cons piece rest ih =>
    obtain ⟨down, descends⟩ := not_or.mp (List.mem_cons.not.mp descends)
    rw [ih descends (walk_cons_ok.mp way).2, follow_append_leading (Ne.symm down)]

theorem content?_of_makeDirectories {start location : Location} {path : List String}
    {result : Except FileError Unit} {content : Content} (descends : ".." ∉ path)
    (made : t.makeDirectories start path = (result, u))
    (present : u.content? location = some content) :
    t.content? location = some content ∨ location <+: start ++ path := by
  induction path generalizing t start with
  | nil =>
    cases made
    exact .inl present
  | cons step rest ih =>
    obtain ⟨down, descends⟩ := not_or.mp (List.mem_cons.not.mp descends)
    rw [makeDirectories, if_neg (Ne.symm down)] at made
    rw [List.append_cons]
    split at made
    · exact ih descends made
    · cases made
      exact .inl present
    · rcases ih descends made with before | inside
      · rw [content?_put (by simp)] at before
        split at before
        · rename_i here
          exact .inr (here ▸ List.prefix_append _ _)
        · exact .inl before
      · exact .inr inside

theorem working_makeDirectories (start : Location) (path : List String) :
    (t.makeDirectories start path).2.working = t.working := by
  induction path generalizing t start with
  | nil => rfl
  | cons step rest ih =>
    rw [makeDirectories]
    split
    · exact ih _
    · rfl
    · rw [ih, working_put]

theorem namesIn_of_created {path : String} (rooted : t.Rooted) (descends : ".." ∉ pieces path)
    (missing : t.list path = .error .notFound) {location : Location}
    (opens : (t.createDirectories path).2.Opens path location) :
    (t.createDirectories path).2.namesIn location = [] := by
  obtain ⟨named, way⟩ := locate_eq_ok.mp opens.way
  have begins : (t.createDirectories path).2.start path = t.start path := by
    rw [start, createDirectories, working_makeDirectories, ← start]
  have place : location = t.start path ++ steps path := begins ▸ eq_of_walk descends way
  rw [List.eq_nil_iff_forall_not_mem]
  intro name member
  rw [mem_namesIn, Option.isSome_iff_exists] at member
  obtain ⟨content, present⟩ := member
  have inSteps : ".." ∉ steps path := fun listed => descends (List.mem_filter.mp listed).1
  rcases content?_of_makeDirectories inSteps rfl present with before | inside
  · -- Something stood in the directory already, so the directory was not missing.
    have directory := rooted _ _ before
    rw [List.dropLast_concat, place] at directory
    have walked := rooted.walk descends directory
    have listed : t.list path = .ok (t.namesIn (t.start path ++ steps path)) :=
      list_eq_ok.mpr ⟨_, ⟨locate_eq_ok.mpr ⟨named, walked⟩, directory⟩, rfl⟩
    rw [missing] at listed
    contradiction
  · have shorter := inside.length_le
    rw [← place, List.length_append, List.length_singleton] at shorter
    omega

end RelayMesh.Files.FileTree
