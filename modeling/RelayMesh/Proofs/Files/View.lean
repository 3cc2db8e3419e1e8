import Mathlib.Data.List.Nodup
import RelayMesh.Files.Expansion
import RelayMesh.Proofs.Files.Tree

/-! What a file system shows as long as nothing changes in it. Programs that only look around answer
from this view alone; the laws that it keeps are those of paths. -/

namespace RelayMesh.Files

/-- The names in directories, as far as these can be listed, and what stands at paths. -/
structure View where
  names : String → Option (List String)
  info : String → Option FileInfo

def Gives {σ α : Type} (s : σ) (run : StateM σ α) (a : α) : Prop :=
  run s = (a, s)

structure SameWay (p q : String) : Prop where
  left : p ≠ ""
  right : q ≠ ""
  root : p.startsWith "/" = q.startsWith "/"
  steps : steps p = steps q

namespace View

structure ShownIn {σ : Type} [FileSystem (StateM σ)] (v : View) (s : σ) : Prop where
  list : ∀ path, ∃ answer, Gives s (FileSystem.list path) answer ∧ answer.toOption = v.names path
  info : ∀ path, Gives s (FileSystem.info path) (v.info path)

def isDirectory (v : View) (path : String) : Bool :=
  (v.info path).any (·.isDirectory)

/-- The laws of a file system. Only directories have names in them, all of them different, and only
in directories stands anything. Paths that go the same way lead to the same place, except that a
file is not found behind a slash or a dot at the end of its path. -/
structure Lawful (v : View) : Prop where
  working : v.isDirectory workingDirectory = true
  directory : ∀ path names, v.names path = some names → v.isDirectory path = true
  distinct : ∀ path names, v.names path = some names → names.Nodup
  plain : ∀ path names, v.names path = some names → ∀ name ∈ names, PlainName name
  parent : ∀ path piece, path ≠ "" → '/' ∉ piece.toList → (v.info (join path piece)).isSome →
    v.isDirectory path = true
  names_congr : ∀ p q, SameWay p q → v.names p = v.names q
  info_congr : ∀ p q name, SameWay p q → PlainName name → (pieces p).getLast? = some name →
    (pieces q).getLast? = some name → v.info p = v.info q

end View

theorem toOption_eq_some {ε α : Type} {answer : Except ε α} {a : α} :
    answer.toOption = some a ↔ answer = .ok a := by
  cases answer <;> simp [Except.toOption]

namespace FileTree

/-- Locations are different, all names are those of something in a directory, and the working
directory is there. -/
structure Proper (t : FileTree) : Prop where
  distinct : (t.entries.map (·.location)).Nodup
  plain : ∀ e ∈ t.entries, ∀ name ∈ e.location.getLast?, PlainName name
  working : t.content? t.working = some .directory

instance (t : FileTree) : Decidable t.Proper :=
  decidable_of_iff ((t.entries.map (·.location)).Nodup ∧
      (∀ e ∈ t.entries, ∀ name ∈ e.location.getLast?, PlainName name) ∧
      t.content? t.working = some .directory)
    ⟨fun ⟨distinct, plain, working⟩ => ⟨distinct, plain, working⟩,
      fun proper => ⟨proper.distinct, proper.plain, proper.working⟩⟩

def view (t : FileTree) : View where
  names path := (t.list path).toOption
  info := t.info

variable {t : FileTree}

theorem shownIn_view (t : FileTree) : t.view.ShownIn t :=
  ⟨fun path => ⟨t.list path, rfl, rfl⟩, fun _ => rfl⟩

theorem names_view_iff {path : String} {names : List String} : t.view.names path = some names ↔
    ∃ location, t.Opens path location ∧ t.namesIn location = names := by
  rw [← list_eq_ok, ← toOption_eq_some]
  rfl

theorem isDirectory_view_iff {path : String} :
    t.view.isDirectory path = true ↔ ∃ location, t.Opens path location := by
  change (t.info path).any (·.isDirectory) = true ↔ _
  rw [info]
  constructor
  · intro found
    cases way : t.locate path with
    | error e => simp [way, Except.toOption] at found
    | ok location =>
      cases here : t.content? location with
      | none => simp [way, here, Except.toOption] at found
      | some content =>
        simp only [way, here, Except.toOption, bind, Option.bind, Option.any, pure,
          beq_iff_eq] at found
        exact ⟨location, way, found ▸ here⟩
  · rintro ⟨location, way, directory⟩
    simp [way, directory, Except.toOption]

theorem locate_of_isSome {path : String} (found : (t.info path).isSome = true) :
    ∃ location, t.locate path = .ok location := by
  rw [info] at found
  cases way : t.locate path with
  | error e => simp [way, Except.toOption] at found
  | ok location => exact ⟨location, rfl⟩

/-- The pieces that lead nowhere only ask for a directory, and at the end of a way to a directory
they ask in vain. -/
theorem walk_leading {start last : Location} {path : List String}
    (directory : t.content? last = some .directory) :
    t.walk start path = .ok last ↔ t.walk start (leading path) = .ok last := by
  induction path generalizing start with
  | nil => rfl
  | cons piece rest ih =>
    rw [walk_cons_ok, ih]
    by_cases still : piece = "" ∨ piece = "."
    · rw [leading_cons_still still, follow_still still]
      exact ⟨And.right, fun way => ⟨directory_of_walk way directory, way⟩⟩
    · rw [leading_cons still, walk_cons_ok]

theorem Opens.sameWay {p q : String} {location : Location} (same : SameWay p q)
    (opens : t.Opens p location) : t.Opens q location := by
  obtain ⟨way, directory⟩ := opens
  obtain ⟨-, walked⟩ := locate_eq_ok.mp way
  refine ⟨locate_eq_ok.mpr ⟨same.right, ?_⟩, directory⟩
  rw [walk_leading directory] at walked ⊢
  have steps : leading (pieces p) = leading (pieces q) := same.steps
  rwa [← start_congr same.root, ← steps]

end FileTree

theorem SameWay.symm {p q : String} (same : SameWay p q) : SameWay q p :=
  ⟨same.right, same.left, same.root.symm, same.steps.symm⟩

namespace FileTree

variable {t : FileTree}

theorem locate_of_last {path name : String} {front : List String} (named : path ≠ "")
    (plain : PlainName name) (split : pieces path = front ++ [name]) {location : Location} :
    t.locate path = .ok location ↔
      ∃ parent, t.walk (t.start path) (leading front) = .ok parent ∧
        t.content? parent = some .directory ∧ parent ++ [name] = location := by
  rw [locate_eq_ok, split, walk_append]
  constructor
  · rintro ⟨-, walked⟩
    cases way : t.walk (t.start path) front with
    | error e => rw [way] at walked; contradiction
    | ok parent =>
      rw [way] at walked
      obtain ⟨directory, last⟩ := walk_cons_ok.mp walked
      rw [follow_onward plain.onward, if_neg plain.noParent] at last
      exact ⟨parent, (walk_leading directory).mp way, directory, Except.ok.inj last⟩
  · rintro ⟨parent, way, directory, rfl⟩
    refine ⟨named, ?_⟩
    rw [(walk_leading directory).mpr way]
    change t.walk parent [name] = _
    rw [walk_plain plain, directory]

theorem nodup_namesIn (proper : t.Proper) (location : Location) : (t.namesIn location).Nodup := by
  have listed : t.namesIn location = (t.entries.map (·.location)).filterMap fun place =>
      if place.dropLast = location then place.getLast? else none := by
    rw [namesIn, List.filterMap_map]
    rfl
  rw [listed]
  refine List.Nodup.filterMap (fun x y name first second => ?_) proper.distinct
  have whole : ∀ place : Location,
      name ∈ (if place.dropLast = location then place.getLast? else none) →
        place = location ++ [name] := by
    intro place named
    split at named
    · rename_i parent
      obtain ⟨front, split⟩ := List.getLast?_eq_some_iff.mp named
      rw [← parent, split, List.dropLast_concat]
    · contradiction
  rw [whole x first, whole y second]

theorem plain_of_mem_namesIn (proper : t.Proper) {location : Location} {name : String}
    (member : name ∈ t.namesIn location) : PlainName name := by
  obtain ⟨e, listed, named⟩ := List.mem_filterMap.mp member
  split at named
  · exact proper.plain e listed name named
  · contradiction

theorem lawful_view (proper : t.Proper) : t.view.Lawful := by
  constructor
  · have relative : workingDirectory.startsWith "/" = false := relative_of_free (by decide)
    refine isDirectory_view_iff.mpr ⟨t.working, locate_eq_ok.mpr ⟨by decide, ?_⟩, proper.working⟩
    rw [start, relative, if_neg Bool.false_ne_true]
    exact (walk_leading proper.working).mpr rfl
  · intro path names listed
    obtain ⟨location, opens, _⟩ := names_view_iff.mp listed
    exact isDirectory_view_iff.mpr ⟨location, opens⟩
  · intro path names listed
    obtain ⟨location, _, rfl⟩ := names_view_iff.mp listed
    exact nodup_namesIn proper location
  · intro path names listed name member
    obtain ⟨location, _, rfl⟩ := names_view_iff.mp listed
    exact plain_of_mem_namesIn proper member
  · intro path piece named free found
    obtain ⟨last, way⟩ := locate_of_isSome found
    exact isDirectory_view_iff.mpr (opens_of_locate_join named free way)
  · intro p q same
    refine Option.ext fun names => ?_
    rw [names_view_iff, names_view_iff]
    exact exists_congr fun location =>
      and_congr_left fun _ => ⟨Opens.sameWay same, Opens.sameWay same.symm⟩
  · intro p q name same plain lastP lastQ
    obtain ⟨frontP, splitP⟩ := List.getLast?_eq_some_iff.mp lastP
    obtain ⟨frontQ, splitQ⟩ := List.getLast?_eq_some_iff.mp lastQ
    have steps : leading frontP = leading frontQ := by
      have whole : leading (pieces p) = leading (pieces q) := same.steps
      rw [splitP, splitQ, leading, leading, List.filter_append, List.filter_append] at whole
      exact List.append_cancel_right whole
    have place : (t.locate p).toOption = (t.locate q).toOption := by
      refine Option.ext fun location => ?_
      have whereP : t.locate p = .ok location ↔ _ := locate_of_last same.left plain splitP
      have whereQ : t.locate q = .ok location ↔ _ := locate_of_last same.right plain splitQ
      rw [← start_congr same.root, ← steps, ← whereP] at whereQ
      rw [toOption_eq_some, toOption_eq_some, whereQ]
    change t.info p = t.info q
    rw [info, info, place]

end FileTree

end RelayMesh.Files
