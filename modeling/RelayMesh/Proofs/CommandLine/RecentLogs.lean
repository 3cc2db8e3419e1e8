import RelayMesh.CommandLine.Analyze
import RelayMesh.Proofs.Files.Recent
import RelayMesh.Proofs.Measurement.BaselineStore

namespace RelayMesh.CommandLine.Analyze

open Files Measurement

/-! ### A tool at work -/

section Work

variable {σ α ε : Type} {s : σ}

theorem gives_orFail {action : StateM σ (Except ε α)} {answer : Except ε α}
    (acted : Gives s action answer) (message : ε → String) (output : String) :
    Gives s ((do orFail message (← act action) : Work (StateM σ) α).run.run output)
      (answer.mapError message, output) := by
  have same : (do orFail message (← act action) : Work (StateM σ) α).run.run output =
      action >>= fun result => pure (result.mapError message, output) := by
    simp only [act, ExceptT.run_bind_lift, StateT.run_bind, StateT.run_lift, bind_assoc, pure_bind]
    exact bind_congr fun result => by cases result <;> rfl
  rw [same]
  exact acted.bind (gives_pure s _)

end Work

/-! ### The logs -/

/-- The path of a file that is neither excluded nor can be taken for a stored baseline. -/
structure IsLog (v : View) (c : Configuration) (path : String) : Prop where
  file : ∃ time, v.info path = some ⟨false, time⟩
  measured : ∀ name, lastName? path = some name → baselineDate? name = none ∧
    ∀ beginning ∈ c.measurement.excludedBeginnings, name.startsWith beginning = false

theorem isLog_of_dated? {v : View} {c : Configuration} {path : String} {file : Dated}
    (dated : v.dated? (c.measurement.excludedBeginnings ++ [baselineBeginning]) path = some file) :
    IsLog v c file.2 := by
  obtain ⟨rfl, info, others⟩ := View.of_dated? dated
  refine ⟨⟨_, info⟩, fun name last => ?_⟩
  have apart := List.forall_mem_append.mp (others name last)
  exact ⟨baselineDate?_eq_none (apart.2 _ (List.mem_singleton_self _)), apart.1⟩

/-- Any directory yields the first of the files that its pattern finds, and one that stands for
itself the first of its own. The tool takes its logs from there. -/
theorem newest_logs {v : View} (lawful : v.Lawful) {σ : Type} [FileSystem (StateM σ)] {s : σ}
    (shown : v.ShownIn s) (directory : String) :
    (∀ n beginnings, ∃ found, Gives s (expand (join directory "*")) found ∧
      match found with
      | .error e => Gives s (mostRecent directory n beginnings) (.error e)
      | .ok paths => ∃ chosen, Newest n (paths.filterMap (v.dated? beginnings)) chosen ∧
        Gives s (mostRecent directory n beginnings) (.ok (chosen.map (·.2)))) ∧
    (Literal directory → ∀ n beginnings, ∃ paths,
      Gives s (mostRecent directory n beginnings) (.ok paths) ∧
      Recent v directory n beginnings paths) ∧
    ∀ (o : Options) (c : Configuration) (output : String), o.files = [] → ∃ recent,
      Gives s (mostRecent directory (o.fileCount.getD c.measurement.fileCount)
        (c.measurement.excludedBeginnings ++ [baselineBeginning])) recent ∧
      Gives s ((files o c directory).run.run output)
        (recent.mapError PatternError.message, output) ∧
      ∀ paths, recent = .ok paths → ∀ path ∈ paths, IsLog v c path := by
  refine ⟨mostRecent_newest shown directory, recent_of_literal lawful shown,
    fun o c output unnamed => ?_⟩
  obtain ⟨found, -, answer⟩ := mostRecent_newest shown directory
    (o.fileCount.getD c.measurement.fileCount)
    (c.measurement.excludedBeginnings ++ [baselineBeginning])
  rw [files, if_neg (not_not.mpr unnamed)]
  cases found with
  | error e => exact ⟨_, answer, gives_orFail answer _ output, nofun⟩
  | ok paths =>
    obtain ⟨chosen, newest, answer⟩ := answer
    refine ⟨_, answer, gives_orFail answer _ output, ?_⟩
    rintro _ ⟨rfl⟩ path member
    obtain ⟨file, taken, rfl⟩ := List.mem_map.mp member
    obtain ⟨path, -, dated⟩ := List.mem_filterMap.mp (newest.mem taken)
    exact isLog_of_dated? dated

def logTree : FileTree :=
  ⟨[⟨["logs"], .directory, 0⟩, ⟨["logs", "a"], .file [], 1⟩, ⟨["logs", "tmp"], .file [], 2⟩,
    ⟨["logs", "b"], .file [], 3⟩], 4, []⟩

theorem logTree_newest : logTree.Proper ∧ Literal "logs" ∧
    logTree.view.filesIn "logs" ["tmp"] = [(1, "logs/a"), (3, "logs/b")] ∧
    (∃ paths, Gives logTree (mostRecent "logs" 1 ["tmp"]) (.ok paths) ∧
      Recent logTree.view "logs" 1 ["tmp"] paths) ∧
    ∃ recent : Except PatternError (List String),
      Gives logTree ((files ⟨{}, none, some 1, [], .stored, none⟩ {} "logs").run.run "")
        (recent.mapError PatternError.message, "") ∧
      ∀ paths, recent = .ok paths → ∀ path ∈ paths, IsLog logTree.view {} path := by
  have proper : logTree.Proper := by decide +kernel
  have literal : Literal "logs" := by decide +kernel
  obtain ⟨-, own, tool⟩ :=
    newest_logs (FileTree.lawful_view proper) (FileTree.shownIn_view logTree) "logs"
  obtain ⟨recent, -, answer, logs⟩ := tool ⟨{}, none, some 1, [], .stored, none⟩ {} "" rfl
  exact ⟨proper, literal, by decide +kernel, own literal 1 ["tmp"], recent, answer, logs⟩

/-! A directory with brackets stands for another one. -/

def loneTree (directory name : String) : FileTree :=
  ⟨[⟨[directory], .directory, 0⟩, ⟨[directory, name], .file [], 1⟩], 2, []⟩

theorem sortedNames_of_single {v : View} {path name : String}
    (listed : v.names path = some [name]) : v.sortedNames path = [name] := by
  rw [View.sortedNames, listed, Option.getD_some, List.mergeSort_singleton]

def brackets : Pattern :=
  [.char 'a', .within [.single '1']]

theorem gives_expand_brackets {t : FileTree} (proper : t.Proper) {name : String}
    (listed : t.view.names workingDirectory = some [name]) :
    Gives t (expand (join "a[1]" "*"))
      (.ok (if brackets.accepts name.toList then t.view.pathsIn name else [])) := by
  have read : Pattern.ofPath (join "a[1]" "*") = .ok [brackets, Pattern.star] := by decide +kernel
  have relative : "a[1]".startsWith "/" = false := by decide +kernel
  have found := gives_expand_wildcards (FileTree.lawful_view proper) (FileTree.shownIn_view t)
    relative read rfl rfl rfl
  rwa [sortedNames_of_single listed, List.flatMap_singleton] at found

/-- The file in the directory is missed, and one in the other directory is returned for it. -/
theorem brackets_mislead :
    ((loneTree "a[1]" "x").Proper ∧ Gives (loneTree "a[1]" "x") (mostRecent "a[1]" 5 []) (.ok []) ∧
      ¬ Recent (loneTree "a[1]" "x").view "a[1]" 5 [] []) ∧
    (loneTree "a1" "y").Proper ∧
      Gives (loneTree "a1" "y") (mostRecent "a[1]" 5 []) (.ok ["a1/y"]) ∧
      ¬ Recent (loneTree "a1" "y").view "a[1]" 5 [] ["a1/y"] := by
  have missed : (loneTree "a[1]" "x").Proper := by decide +kernel
  have strange : (loneTree "a1" "y").Proper := by decide +kernel
  refine ⟨⟨missed, ?_, fun recent => ?_⟩, strange, ?_, fun recent => ?_⟩
  · have listed : (loneTree "a[1]" "x").view.names workingDirectory = some ["a[1]"] := by
      decide +kernel
    have apart : brackets.accepts "a[1]".toList = false := by decide +kernel
    have found := gives_expand_brackets missed listed
    rw [apart, if_neg Bool.false_ne_true] at found
    have answer := gives_mostRecent (FileTree.shownIn_view _) found 5 []
    dsimp only [Except.map] at answer
    rwa [List.filterMap_nil, List.mergeSort_nil] at answer
  · have own : (loneTree "a[1]" "x").view.filesIn "a[1]" [] = [(1, "a[1]/x")] := by decide +kernel
    have length := recent.length
    rw [own] at length
    contradiction
  · have listed : (loneTree "a1" "y").view.names workingDirectory = some ["a1"] := by
      decide +kernel
    have inside : (loneTree "a1" "y").view.names "a1" = some ["y"] := by decide +kernel
    have fits : brackets.accepts "a1".toList = true := by decide +kernel
    have dated : (["y"].map (stepInto "a1")).filterMap ((loneTree "a1" "y").view.dated? []) =
        [(1, "a1/y")] := by decide +kernel
    have found := gives_expand_brackets strange listed
    rw [fits, if_pos rfl, View.pathsIn, sortedNames_of_single inside] at found
    have answer := gives_mostRecent (FileTree.shownIn_view _) found 5 []
    dsimp only [Except.map] at answer
    rwa [dated, List.mergeSort_singleton] at answer
  · have none : (loneTree "a1" "y").view.filesIn "a[1]" [] = [] := by decide +kernel
    have length := recent.length
    rw [none] at length
    contradiction

end RelayMesh.CommandLine.Analyze
