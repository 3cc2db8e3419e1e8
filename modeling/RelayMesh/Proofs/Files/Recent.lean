import Mathlib.Data.String.Basic
import RelayMesh.CommandLine.Analyze
import RelayMesh.Proofs.Files.Expansion

namespace RelayMesh.Files

/-! ### The order of files -/

section Order

open pathLe (placesLe)

theorem placesLe_total (xs ys : List (Nat × String)) :
    placesLe xs ys = true ∨ placesLe ys xs = true := by
  induction xs generalizing ys with
  | nil => exact .inl rfl
  | cons x xs ih =>
    cases ys with
    | nil => exact .inr rfl
    | cons y ys =>
      have rest := ih ys
      have kinds := Nat.lt_trichotomy x.1 y.1
      have names := lt_trichotomy x.2 y.2
      simp only [placesLe, Bool.or_eq_true, Bool.and_eq_true, decide_eq_true_eq, beq_iff_eq]
      grind

theorem placesLe_trans {xs ys zs : List (Nat × String)} (first : placesLe xs ys = true)
    (second : placesLe ys zs = true) : placesLe xs zs = true := by
  induction xs generalizing ys zs with
  | nil => rfl
  | cons x xs ih =>
    cases ys with
    | nil => cases first
    | cons y ys =>
      cases zs with
      | nil => cases second
      | cons z zs =>
        have names (before : x.2 < y.2) (after : y.2 < z.2) := before.trans after
        simp only [placesLe, Bool.or_eq_true, Bool.and_eq_true, decide_eq_true_eq,
          beq_iff_eq] at first second ⊢
        grind

theorem placesLe_append (front xs ys : List (Nat × String)) :
    placesLe (front ++ xs) (front ++ ys) = placesLe xs ys := by
  induction front with
  | nil => rfl
  | cons x front ih => simp [placesLe, ih]

theorem newerFirst_total (x y : Dated) : (newerFirst x y || newerFirst y x) = true := by
  have paths := placesLe_total (places x.2) (places y.2)
  simp only [newerFirst, pathLe, Bool.or_eq_true, Bool.and_eq_true, decide_eq_true_eq, beq_iff_eq]
  grind

theorem newerFirst_trans (x y z : Dated) (first : newerFirst x y = true)
    (second : newerFirst y z = true) : newerFirst x z = true := by
  have paths : pathLe x.2 y.2 = true → pathLe y.2 z.2 = true → pathLe x.2 z.2 = true :=
    placesLe_trans
  simp only [newerFirst, Bool.or_eq_true, Bool.and_eq_true, decide_eq_true_eq,
    beq_iff_eq] at first second ⊢
  grind

end Order

/-- The first files in the order by age and path, as many as are asked for. None of those that are
left out comes before a chosen one. -/
structure Newest (n : Nat) (files chosen : List Dated) : Prop where
  first : ∃ left, (chosen ++ left).Perm files ∧
    ∀ file ∈ chosen, ∀ other ∈ left, newerFirst file other = true
  ordered : chosen.Pairwise fun file other => newerFirst file other = true
  length : chosen.length = min n files.length

theorem newest_take {files sorted : List Dated} (n : Nat) (perm : sorted.Perm files)
    (ordered : sorted.Pairwise fun file other => newerFirst file other = true) :
    Newest n files (sorted.take n) := by
  have split : sorted.take n ++ sorted.drop n = sorted := List.take_append_drop n sorted
  have parts := ordered
  rw [← split, List.pairwise_append] at parts
  obtain ⟨front, -, across⟩ := parts
  refine ⟨⟨sorted.drop n, by rwa [split], across⟩, front, ?_⟩
  rw [List.length_take, perm.length_eq]

theorem Newest.mem {n : Nat} {files chosen : List Dated} (newest : Newest n files chosen)
    {file : Dated} (member : file ∈ chosen) : file ∈ files := by
  obtain ⟨left, whole, _⟩ := newest.first
  exact whole.mem_iff.mp (List.mem_append_left left member)

theorem Newest.perm {n : Nat} {files others chosen : List Dated} (newest : Newest n files chosen)
    (perm : files.Perm others) : Newest n others chosen := by
  obtain ⟨⟨left, whole, first⟩, ordered, length⟩ := newest
  exact ⟨⟨left, whole.trans perm, first⟩, ordered, perm.length_eq ▸ length⟩

theorem newest_mergeSort (n : Nat) (files : List Dated) :
    Newest n files ((files.mergeSort newerFirst).take n) :=
  newest_take n (List.mergeSort_perm files newerFirst)
    (List.pairwise_mergeSort newerFirst_trans newerFirst_total files)

/-! ### Names in one directory -/

theorem places_of_plain {name : String} (plain : PlainName name) :
    places name = [placeOf name] := by
  rw [places_eq, origin, relative_of_free plain.noSlash, pieces_of_free plain.noSlash,
    steps_of_free plain.noSlash, plain.leading]
  simp [plain.noDot]

theorem pathLe_join (directory : String) {a b : String} (plainA : PlainName a)
    (plainB : PlainName b) : pathLe (join directory a) (join directory b) = pathLe a b := by
  by_cases named : directory = ""
  · rw [named, join_empty, join_empty]
  · rw [pathLe, pathLe, places_join named plainA.noSlash, places_join named plainB.noSlash,
      placesLe_append, plainA.leading, plainB.leading, places_of_plain plainA,
      places_of_plain plainB]
    rfl

theorem getLast?_pieces_stepInto {name : String} (free : '/' ∉ name.toList) (path : String) :
    (pieces (stepInto path name)).getLast? = some name := by
  rw [stepInto]
  split
  · rw [pieces_of_free free]
    rfl
  · exact getLast?_pieces_below free path

namespace Passable

variable {found : String} (way : Passable found ["*"])
include way

theorem pathLe {a b : String} (plainA : PlainName a) (plainB : PlainName b) :
    pathLe (stepInto found a) (stepInto found b) = Files.pathLe a b := by
  rcases way with outside | ⟨rfl, _⟩
  · rw [outside.stepInto_eq, outside.stepInto_eq]
    exact pathLe_join found plainA plainB
  · rw [stepInto_workingDirectory, stepInto_workingDirectory]

theorem sameWay {directory name : String} (same : SameWay found (directoryAt directory))
    (plain : PlainName name) : SameWay (stepInto found name) (join directory name) := by
  obtain ⟨onward, root, steps⟩ := (way.name plain).step plain.noSlash
  refine ⟨onward.named, below_ne_empty plain.noSlash plain.nonempty directory, ?_, ?_⟩
  · rw [root, startsWith_below plain.noSlash, same.root, startsWith_directoryAt]
  · rw [steps, steps_below plain.noSlash, same.steps, steps_directoryAt]

end Passable

/-! ### What is found -/

namespace View

/-- When the file at a path was created. There is none if its name begins with one of the texts. -/
def created? (v : View) (beginnings : List String) (path name : String) : Option Nat :=
  match v.info path with
  | some info =>
    if info.isDirectory || beginnings.any (name.startsWith ·) then none else some info.created
  | none => none

def dated? (v : View) (beginnings : List String) (path : String) : Option Dated :=
  (v.created? beginnings path ((lastName? path).getD "")).map fun time => (time, path)

/-- The files in a directory, without those whose names begin with one of the texts. -/
def filesIn (v : View) (directory : String) (beginnings : List String) : List Dated :=
  ((v.names (directoryAt directory)).getD []).filterMap fun name =>
    (v.created? beginnings (join directory name) name).map fun time => (time, join directory name)

end View

/-- The paths lead to the newest files in a directory, each of them to another one. -/
structure Recent (v : View) (directory : String) (n : Nat) (beginnings paths : List String) :
    Prop where
  newest : ∃ chosen, Newest n (v.filesIn directory beginnings) chosen ∧
    List.Forall₂ (fun path file => SameWay path file.2 ∧ v.info path = v.info file.2) paths chosen
  distinct : (paths.map lastName?).Nodup

theorem Recent.length {v : View} {directory : String} {n : Nat} {beginnings paths : List String}
    (recent : Recent v directory n beginnings paths) :
    paths.length = min n (v.filesIn directory beginnings).length := by
  obtain ⟨chosen, newest, same⟩ := recent.newest
  rw [same.length_eq, newest.length]

theorem View.created?_eq_some_iff {v : View} {beginnings : List String} {path name : String}
    {time : Nat} : v.created? beginnings path name = some time ↔ v.info path = some ⟨false, time⟩ ∧
      ∀ beginning ∈ beginnings, name.startsWith beginning = false := by
  rw [created?]
  cases v.info path with
  | none => simp
  | some info =>
    obtain ⟨directory, created⟩ := info
    cases directory <;> simp [and_comm]

theorem View.of_dated? {v : View} {beginnings : List String} {path : String} {file : Dated}
    (dated : v.dated? beginnings path = some file) : file.2 = path ∧
      v.info path = some ⟨false, file.1⟩ ∧ ∀ name, lastName? path = some name →
        ∀ beginning ∈ beginnings, name.startsWith beginning = false := by
  obtain ⟨time, created, rfl⟩ := Option.map_eq_some_iff.mp dated
  obtain ⟨info, others⟩ := View.created?_eq_some_iff.mp created
  refine ⟨rfl, info, fun name last => ?_⟩
  rwa [last, Option.getD_some] at others

section Shown

variable {σ : Type} [FileSystem (StateM σ)] {v : View} {s : σ} (shown : v.ShownIn s)
include shown

theorem gives_dated? (beginnings : List String) (path : String) :
    Gives s (dated? beginnings path) (v.dated? beginnings path) := by
  refine (shown.info path).bind ?_
  rw [View.dated?, View.created?]
  cases v.info path with
  | none => exact gives_pure s none
  | some info =>
    change Gives s (pure (if info.isDirectory || excluded beginnings path then none else _))
      (Option.map _ (if info.isDirectory || excluded beginnings path then none else _))
    cases info.isDirectory || excluded beginnings path <;> exact gives_pure s _

theorem gives_mostRecent {directory : String} {found : Except PatternError (List String)}
    (looked : Gives s (expand (join directory "*")) found) (n : Nat) (beginnings : List String) :
    Gives s (mostRecent directory n beginnings) (found.map fun paths =>
      (((paths.filterMap (v.dated? beginnings)).mergeSort newerFirst).take n).map (·.2)) := by
  refine looked.bind ?_
  cases found with
  | error e => exact gives_pure s _
  | ok paths =>
    have each : ∀ path ∈ paths, Gives s (do return (← dated? beginnings path).toList)
        (v.dated? beginnings path).toList :=
      fun path _ => (gives_dated? shown beginnings path).bind (gives_pure s _)
    dsimp only [Except.map]
    rw [List.filterMap_eq_flatMap_toList]
    exact (gives_forEach each).bind (gives_pure s _)

theorem mostRecent_newest (directory : String) (n : Nat) (beginnings : List String) : ∃ found,
    Gives s (expand (join directory "*")) found ∧
      match found with
      | .error e => Gives s (mostRecent directory n beginnings) (.error e)
      | .ok paths => ∃ chosen, Newest n (paths.filterMap (v.dated? beginnings)) chosen ∧
        Gives s (mostRecent directory n beginnings) (.ok (chosen.map (·.2))) := by
  obtain ⟨found, looked⟩ := quiet_expand shown (join directory "*")
  refine ⟨found, looked, ?_⟩
  have answer := gives_mostRecent shown looked n beginnings
  cases found with
  | error e => exact answer
  | ok paths => exact ⟨_, newest_mergeSort n _, answer⟩

end Shown

/-! ### A directory that stands for itself -/

theorem newerFirst_map {f : String → String} {a b : Dated}
    (same : pathLe (f a.2) (f b.2) = pathLe a.2 b.2) :
    newerFirst (a.map id f) (b.map id f) = newerFirst a b := by
  simp only [newerFirst, Prod.map_fst, Prod.map_snd, id_eq, same]

theorem mergeSort_map {f : String → String} {files : List Dated}
    (same : ∀ a ∈ files, ∀ b ∈ files, pathLe (f a.2) (f b.2) = pathLe a.2 b.2) :
    (files.map (Prod.map id f)).mergeSort newerFirst =
      (files.mergeSort newerFirst).map (Prod.map id f) :=
  (List.map_mergeSort fun a memberA b memberB =>
    (newerFirst_map (same a memberA b memberB)).symm).symm

def View.named (v : View) (directory : String) (beginnings names : List String) : List Dated :=
  names.filterMap fun name =>
    (v.created? beginnings (join directory name) name).map fun time => (time, name)

section Named

variable {v : View} {directory : String} {beginnings names : List String}

theorem filesIn_eq : v.filesIn directory beginnings =
    (v.named directory beginnings ((v.names (directoryAt directory)).getD [])).map
      (Prod.map id (join directory)) := by
  rw [View.filesIn, View.named, List.map_filterMap]
  simp only [Option.map_map]
  rfl

theorem names_named :
    (v.named directory beginnings names).map (·.2) = names.filter fun name =>
      (v.created? beginnings (join directory name) name).isSome := by
  rw [View.named, List.map_filterMap, ← List.filterMap_eq_filter]
  refine List.filterMap_congr fun name _ => ?_
  cases time : v.created? beginnings (join directory name) name <;> simp [Option.guard, time]

theorem mem_of_mem_named {file : Dated} (member : file ∈ v.named directory beginnings names) :
    file.2 ∈ names := by
  have own := List.mem_map_of_mem (f := (·.2)) member
  rw [names_named] at own
  exact List.mem_of_mem_filter own

end Named

theorem nodup_sortedNames {v : View} (lawful : v.Lawful) (path : String) :
    (v.sortedNames path).Nodup := by
  rw [View.sortedNames, (List.mergeSort_perm _ _).nodup_iff]
  cases listed : v.names path with
  | none => exact List.nodup_nil
  | some names => exact lawful.distinct path names listed

section Lawful

variable {v : View} (lawful : v.Lawful) {found directory : String}
  (way : Passable found ["*"]) (same : SameWay found (directoryAt directory))
include lawful way same

theorem info_below {name : String} (plain : PlainName name) :
    v.info (stepInto found name) = v.info (join directory name) :=
  lawful.info_congr _ _ name (way.sameWay same plain) plain
    (getLast?_pieces_stepInto plain.noSlash found) (getLast?_pieces_below plain.noSlash directory)

theorem dated_pathsIn (beginnings : List String) :
    (v.pathsIn found).filterMap (v.dated? beginnings) =
      (v.named directory beginnings (v.sortedNames found)).map (Prod.map id (stepInto found)) := by
  rw [View.pathsIn, View.named, List.filterMap_map, List.map_filterMap]
  refine List.filterMap_congr fun name member => ?_
  have plain := plain_of_sortedNames lawful member
  rw [Function.comp_apply, View.dated?, View.created?, View.created?, way.lastName? plain,
    info_below lawful way same plain, Option.getD_some, Option.map_map]
  rfl

omit way in
theorem named_perm_filesIn (beginnings : List String) :
    ((v.named directory beginnings (v.sortedNames found)).map (Prod.map id (join directory))).Perm
      (v.filesIn directory beginnings) := by
  rw [filesIn_eq, ← lawful.names_congr _ _ same]
  exact ((List.mergeSort_perm _ _).filterMap _).map _

theorem recent_of_names {n : Nat} {beginnings : List String} {chosen : List Dated}
    (plain : ∀ file ∈ chosen, PlainName file.2) (distinct : (chosen.map (·.2)).Nodup)
    (newest : Newest n (v.filesIn directory beginnings)
      (chosen.map (Prod.map id (join directory)))) :
    Recent v directory n beginnings ((chosen.map (Prod.map id (stepInto found))).map (·.2)) := by
  refine ⟨⟨_, newest, ?_⟩, ?_⟩
  · rw [List.forall₂_map_left_iff, List.forall₂_map_left_iff, List.forall₂_map_right_iff,
      List.forall₂_same]
    exact fun file member =>
      ⟨way.sameWay same (plain file member), info_below lawful way same (plain file member)⟩
  · have names : ((chosen.map (Prod.map id (stepInto found))).map (·.2)).map lastName? =
        (chosen.map (·.2)).map some := by
      rw [List.map_map, List.map_map, List.map_map]
      refine List.map_congr_left fun file member => ?_
      rw [Function.comp_apply, Function.comp_apply, Prod.map_snd, Function.comp_apply]
      exact way.lastName? (plain file member)
    rw [names]
    exact distinct.map fun _ _ => Option.some.inj

theorem recent_below {σ : Type} [FileSystem (StateM σ)] {s : σ} (shown : v.ShownIn s)
    (looked : Gives s (expand (join directory "*")) (.ok (v.pathsIn found))) (n : Nat)
    (beginnings : List String) : ∃ paths,
      Gives s (mostRecent directory n beginnings) (.ok paths) ∧
      Recent v directory n beginnings paths := by
  let named := v.named directory beginnings (v.sortedNames found)
  let sorted := named.mergeSort newerFirst
  have perm : sorted.Perm named := List.mergeSort_perm named newerFirst
  have plain : ∀ file ∈ named, PlainName file.2 := fun file member =>
    plain_of_sortedNames lawful (mem_of_mem_named member)
  have distinct : (sorted.map (·.2)).Nodup := by
    rw [(perm.map _).nodup_iff, names_named]
    exact (nodup_sortedNames lawful found).filter _
  have answer := gives_mostRecent shown looked n beginnings
  dsimp only [Except.map] at answer
  rw [dated_pathsIn lawful way same, mergeSort_map fun a memberA b memberB =>
    way.pathLe (plain a memberA) (plain b memberB), ← List.map_take] at answer
  have newest := newest_mergeSort n (named.map (Prod.map id (join directory)))
  rw [mergeSort_map fun a memberA b memberB =>
    pathLe_join directory (plain a memberA) (plain b memberB), ← List.map_take] at newest
  refine ⟨_, answer, recent_of_names lawful way same (fun file member => ?_)
    (distinct.sublist ((List.take_sublist n sorted).map _))
    (newest.perm (named_perm_filesIn lawful same beginnings))⟩
  exact plain file (perm.mem_iff.mp (List.mem_of_mem_take member))

end Lawful

theorem recent_of_literal {v : View} (lawful : v.Lawful) {σ : Type} [FileSystem (StateM σ)] {s : σ}
    (shown : v.ShownIn s) {directory : String} (literal : Literal directory) (n : Nat)
    (beginnings : List String) : ∃ paths,
      Gives s (mostRecent directory n beginnings) (.ok paths) ∧
      Recent v directory n beginnings paths := by
  obtain ⟨found, way, same, looked⟩ := gives_expand lawful shown literal
  exact recent_below lawful way same shown looked n beginnings

end RelayMesh.Files
