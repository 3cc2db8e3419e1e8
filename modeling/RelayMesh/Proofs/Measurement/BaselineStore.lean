import RelayMesh.Measurement.BaselineStore
import RelayMesh.Files.Tree
import RelayMesh.Proofs.Calendar
import RelayMesh.Proofs.Decimal.Plain
import RelayMesh.Proofs.Files.Tree
import RelayMesh.Proofs.Text.Utf8

/-! A store of baselines is a map from days to numbers, whatever else is written into its directory.
The name of a file gives its day back, and the text of a file its number. -/

namespace RelayMesh.Measurement

open Files (FileError FileTree Location Content PlainName join)

/-! ### Names and texts -/

theorem between?_append (beginning ending text : List Char) :
    between? beginning ending (beginning ++ text ++ ending) = some text := by
  have front : beginning.isPrefixOf? (beginning ++ text ++ ending) = some (text ++ ending) :=
    List.isPrefixOf?_eq_some_iff_append_eq.mpr (List.append_assoc ..).symm
  have back : ending.reverse.isPrefixOf? (text ++ ending).reverse = some text.reverse :=
    List.isPrefixOf?_eq_some_iff_append_eq.mpr List.reverse_append.symm
  rw [between?, front, Option.bind_some, back, Option.map_some, List.reverse_reverse]

theorem toList_baselineName (d : Date) : (baselineName d).toList =
    baselineBeginning.toList ++ d.keyChars ++ baselineEnding.toList := by
  rw [baselineName, String.toList_append, String.toList_append, Date.key, String.toList_ofList]

theorem baselineDate?_baselineName (d : Date) : baselineDate? (baselineName d) = some d := by
  rw [baselineDate?, toList_baselineName, between?_append]
  exact d.ofKeyChars?_keyChars

theorem baselineDate?_eq_none {name : String} (other : name.startsWith baselineBeginning = false) :
    baselineDate? name = none := by
  rw [baselineDate?, between?]
  cases front : baselineBeginning.toList.isPrefixOf? name.toList with
  | none => rfl
  | some rest =>
    have begins := String.startsWith_string_iff.mpr
      ⟨rest, List.isPrefixOf?_eq_some_iff_append_eq.mp front⟩
    rw [other] at begins
    contradiction

theorem plainName_baselineName (d : Date) : PlainName (baselineName d) := by
  have first : (baselineName d).toList.head? = some 'a' := by
    rw [toList_baselineName]
    rfl
  have other {name : String} (different : name.toList.head? ≠ some 'a') :
      baselineName d ≠ name := by
    rintro rfl
    exact different first
  refine ⟨other (by decide), other (by decide), other (by decide), fun slash => ?_⟩
  rw [toList_baselineName, d.keyChars_eq] at slash
  simp only [List.mem_append] at slash
  rcases slash with (front | sign | digit) | back
  · exact absurd front (by decide)
  · split at sign
    · exact absurd sign (by decide)
    · contradiction
  · exact absurd (Date.isDigit_of_mem_digits _ digit) (by decide)
  · exact absurd back (by decide)

theorem secondsOfText_secondsText {seconds : Binary64} (finite : seconds.isFinite = true)
    (path : String) : secondsOfText path (secondsText seconds) = .ok seconds := by
  have solid : Text.trim (Decimal.plainStyle.render seconds) = Decimal.plainStyle.render seconds :=
    Decimal.trim_eq_self fun c member =>
      Decimal.isBlank_of_isLiteralChar (Decimal.isLiteralChar_plainStyle finite c member)
  rw [secondsOfText, secondsText, String.toList_ofList, solid, Decimal.ofChars?_plainStyle finite]
  exact if_pos finite

namespace BaselineStore

variable (s : BaselineStore)

/-! ### Stores on a tree -/

def storeIn (date : Date) (seconds : Binary64) (t : FileTree) :
    Except BaselineError String × FileTree :=
  let action : StateM FileTree (Except BaselineError String) := s.store date seconds
  action t

def loadIn (date : Date) (t : FileTree) : Except BaselineError Binary64 × FileTree :=
  let action : StateM FileTree (Except BaselineError Binary64) := s.load date
  action t

def latestIn (t : FileTree) : Except BaselineError (Option (Date × Binary64)) × FileTree :=
  let action : StateM FileTree (Except BaselineError (Option (Date × Binary64))) := s.latest
  action t

def baselineFile (seconds : Binary64) : Content :=
  .file (Text.Utf8.encode (secondsText seconds))

theorem storeIn_of_not_finite {seconds : Binary64} (other : seconds.isFinite = false) (date : Date)
    (t : FileTree) : s.storeIn date seconds t = (.error (.notFinite seconds), t) := by
  simp only [storeIn, store, other]
  rfl

theorem storeIn_of_finite {seconds : Binary64} (finite : seconds.isFinite = true) (date : Date)
    (t : FileTree) : s.storeIn date seconds t =
      match t.createDirectories s.directory with
      | (.error e, u) => (.error (.io s.directory e), u)
      | (.ok (), u) =>
        match u.write (s.path date) (Text.Utf8.encode (secondsText seconds)) with
        | (.error e, v) => (.error (.io (s.path date) e), v)
        | (.ok (), v) => (.ok (s.path date), v) := by
  simp only [storeIn, store, finite, Bool.not_true, Bool.false_eq_true, if_false, bind, StateT.bind,
    pure, Files.FileSystem.createDirectories, Files.writeText, Files.FileSystem.write]
  rcases t.createDirectories s.directory with ⟨_ | _, u⟩
  · rfl
  · simp only [StateT.bind]
    rcases u.write (s.path date) (Text.Utf8.encode (secondsText seconds)) with ⟨_ | _, v⟩ <;> rfl

theorem loadIn_eq (date : Date) (t : FileTree) : s.loadIn date t =
    (match t.read (s.path date) with
      | .error .notFound => .error (.notFound (s.path date))
      | .error e => .error (.io (s.path date) e)
      | .ok bytes =>
        match Text.Utf8.decode? bytes with
        | some text => secondsOfText (s.path date) (String.ofList text)
        | none => .error (.io (s.path date) .invalidText), t) := by
  simp only [loadIn, load, Files.readText, Files.FileSystem.read, bind, StateT.bind, pure]
  cases t.read (s.path date) with
  | error e => cases e <;> rfl
  | ok bytes =>
    dsimp only
    cases Text.Utf8.decode? bytes <;> rfl

theorem latestIn_eq (t : FileTree) : s.latestIn t =
    match t.list s.directory with
    | .error .notFound => (.ok none, t)
    | .error e => (.error (.io s.directory e), t)
    | .ok names =>
      match Date.latest? (names.filterMap baselineDate?) with
      | none => (.ok none, t)
      | some date =>
        ((s.loadIn date t).1.map fun seconds => some (date, seconds), (s.loadIn date t).2) := by
  simp only [latestIn, latest, Files.FileSystem.list, bind, StateT.bind, pure]
  cases t.list s.directory with
  | error e => cases e <;> rfl
  | ok names =>
    dsimp only
    cases Date.latest? (names.filterMap baselineDate?) <;> rfl

/-! ### Maps from days to numbers -/

def IsLatest (stored : Date → Option Binary64) : Option (Date × Binary64) → Prop
  | none => ∀ d, stored d = none
  | some (date, seconds) =>
    stored date = some seconds ∧ ∀ d, (stored d).isSome = true → d.le date = true

structure Answers (stored : Date → Option Binary64) (t : FileTree) : Prop where
  load (date : Date) : s.loadIn date t =
    (match stored date with
      | some seconds => .ok seconds
      | none => .error (.notFound (s.path date)), t)
  latest : ∃ found, s.latestIn t = (.ok found, t) ∧ IsLatest stored found
  refuses (date : Date) (seconds : Binary64) (other : seconds.isFinite = false) :
    s.storeIn date seconds t = (.error (.notFinite seconds), t)

/-- In the directory of the store there are exactly the files of a map, as far as days can be read
from their names. -/
structure Holds (stored : Date → Option Binary64) (t : FileTree) : Prop where
  finite (date : Date) (seconds : Binary64) (present : stored date = some seconds) :
    seconds.isFinite = true
  files : ∃ location, t.Opens s.directory location ∧ ∀ name date, baselineDate? name = some date →
    t.content? (location ++ [name]) =
      if name = baselineName date then (stored date).map baselineFile else none

/-- The directory is there or missing, and once it is created no file in it has a name from which a
day can be read. -/
structure Unused (t : FileTree) : Prop where
  listed : t.list s.directory = .error .notFound ∨ ∃ names, t.list s.directory = .ok names
  empty : ∀ names, (t.createDirectories s.directory).2.list s.directory = .ok names →
    ∀ name ∈ names, baselineDate? name = none

variable {s} {stored : Date → Option Binary64} {t u : FileTree}

theorem Holds.of_unused (unused : s.Unused t)
    (created : t.createDirectories s.directory = (.ok (), u)) {location : Location}
    (opens : u.Opens s.directory location) : s.Holds (fun _ => none) u := by
  refine ⟨fun _ _ present => (Option.some_ne_none _ present.symm).elim, location, opens,
    fun name date dated => ?_⟩
  have absent : name ∉ u.namesIn location := by
    intro member
    have listed : u.list s.directory = .ok (u.namesIn location) :=
      FileTree.list_eq_ok.mpr ⟨location, opens, rfl⟩
    have undated := unused.empty _ (by rw [created]; exact listed) name member
    rw [dated] at undated
    contradiction
  rw [FileTree.mem_namesIn, Option.not_isSome_iff_eq_none] at absent
  exact absent.trans (ite_self none).symm

theorem Holds.load (holds : s.Holds stored t) (named : s.directory ≠ "") (date : Date) :
    s.loadIn date t =
      (match stored date with
        | some seconds => .ok seconds
        | none => .error (.notFound (s.path date)), t) := by
  obtain ⟨finite, location, opens, files⟩ := holds
  have file := files _ date (baselineDate?_baselineName date)
  rw [if_pos rfl] at file
  rw [loadIn_eq, path, opens.read_join named (plainName_baselineName date), file]
  cases present : stored date with
  | none => rfl
  | some seconds =>
    simp only [Option.map_some, baselineFile, Text.Utf8.decode?_encode, String.ofList_toList,
      secondsOfText_secondsText (finite date seconds present)]

theorem Holds.latest (holds : s.Holds stored t) (named : s.directory ≠ "") :
    ∃ found, s.latestIn t = (.ok found, t) ∧ IsLatest stored found := by
  obtain ⟨_, location, opens, files⟩ := id holds
  have dates (date : Date) :
      date ∈ (t.namesIn location).filterMap baselineDate? ↔ (stored date).isSome = true := by
    rw [List.mem_filterMap]
    constructor
    · rintro ⟨name, member, dated⟩
      rw [FileTree.mem_namesIn, files name date dated] at member
      split at member
      · simpa using member
      · contradiction
    · intro present
      refine ⟨baselineName date, FileTree.mem_namesIn.mpr ?_, baselineDate?_baselineName date⟩
      rw [files _ date (baselineDate?_baselineName date), if_pos rfl, Option.isSome_map]
      exact present
  rw [latestIn_eq, FileTree.list_eq_ok.mpr ⟨location, opens, rfl⟩]
  dsimp only
  cases newest : Date.latest? ((t.namesIn location).filterMap baselineDate?) with
  | none =>
    refine ⟨none, rfl, fun date => Option.not_isSome_iff_eq_none.mp fun present => ?_⟩
    have member := (dates date).mpr present
    rw [Date.latest?_eq_none.mp newest] at member
    contradiction
  | some date =>
    obtain ⟨member, greatest⟩ := Date.latest?_spec newest
    obtain ⟨seconds, present⟩ := Option.isSome_iff_exists.mp ((dates date).mp member)
    refine ⟨some (date, seconds), ?_, present, fun d other => greatest d ((dates d).mpr other)⟩
    dsimp only
    rw [holds.load named, present]
    rfl

theorem Holds.write (holds : s.Holds stored t) (named : s.directory ≠ "") {name : String}
    (plain : PlainName name) (undated : baselineDate? name = none) (bytes : List UInt8) :
    s.Holds stored (t.write (join s.directory name) bytes).2 := by
  obtain ⟨finite, location, opens, files⟩ := id holds
  rw [opens.write_join named plain]
  split
  · exact holds
  · rename_i free
    have below : location ++ [name] ≠ [] := by simp
    refine ⟨finite, location, opens.put below free _,
      fun other date dated => ?_⟩
    rw [FileTree.content?_put below, if_neg, files other date dated]
    intro same
    rw [List.append_cancel_left same |> List.singleton_inj.mp, undated] at dated
    contradiction

theorem Holds.store (holds : s.Holds stored t) (named : s.directory ≠ "") (date : Date)
    {seconds : Binary64} (finite : seconds.isFinite = true) :
    ∃ u, s.storeIn date seconds t = (.ok (s.path date), u) ∧
      s.Holds (fun d => if date = d then some seconds else stored d) u := by
  obtain ⟨bounded, location, opens, files⟩ := holds
  have file := files _ date (baselineDate?_baselineName date)
  rw [if_pos rfl] at file
  have free : t.content? (location ++ [baselineName date]) ≠ some .directory := by
    rw [file]
    cases stored date <;> simp [baselineFile]
  have below : location ++ [baselineName date] ≠ [] := by simp
  have written := opens.write_join named (plainName_baselineName date)
    (Text.Utf8.encode (secondsText seconds))
  rw [if_neg free] at written
  refine ⟨t.put (location ++ [baselineName date]) (baselineFile seconds), ?_, ?_, location,
    opens.put below free _, ?_⟩
  · rw [storeIn_of_finite s finite, opens.createDirectories]
    simp only [path, written, baselineFile]
  · intro d x present
    split at present
    · cases present
      exact finite
    · exact bounded d x present
  · intro name d dated
    rw [FileTree.content?_put below, files name d dated]
    by_cases same : date = d
    · subst same
      by_cases own : name = baselineName date
      · rw [if_pos (by rw [own]), if_pos own, if_pos rfl]
        rfl
      · rw [if_neg (by simpa using own), if_neg own, if_neg own]
    · have other : name ≠ baselineName date := by
        rintro rfl
        rw [baselineDate?_baselineName] at dated
        exact same (Option.some.inj dated)
      rw [if_neg (by simpa using other), if_neg same]

/-! ### Runs -/

/-- Something that happens to the directory of a store: a number is stored, or a file is written by
somebody else. -/
inductive Change where
  | store (date : Date) (seconds : Binary64)
  | write (name : String) (bytes : List UInt8)

variable (s)

def apply (t : FileTree) : Change → FileTree
  | .store date seconds => (s.storeIn date seconds t).2
  | .write name bytes => (t.write (join s.directory name) bytes).2

/-- The files of a store can be written, and other files have names that tell no day. -/
def Permits (t : FileTree) : Change → Prop
  | .store date seconds => ∀ path e, (s.storeIn date seconds t).1 ≠ .error (.io path e)
  | .write name _ => PlainName name ∧ baselineDate? name = none

/-- The changes of a tree, the last one first, and the tree that they make of it. -/
inductive History (begun : FileTree) : List Change → FileTree → Prop where
  | begin : History begun [] begun
  | next {past : List Change} {t : FileTree} (before : History begun past t) (change : Change)
      (permitted : s.Permits t change) : History begun (change :: past) (s.apply t change)

def stored? : List Change → Date → Option Binary64
  | [], _ => none
  | .store day seconds :: past, date =>
    if seconds.isFinite ∧ day = date then some seconds else stored? past date
  | .write _ _ :: past, date => stored? past date

/-- Between changes, either the directory holds what was stored, or it is still missing and nothing
was stored. -/
def Follows (stored : Date → Option Binary64) (t : FileTree) : Prop :=
  s.Holds stored t ∨
    s.Unused t ∧ t.list s.directory = .error .notFound ∧ stored = fun _ => none

variable {s}

theorem storeIn_of_created {date : Date} {seconds : Binary64} (finite : seconds.isFinite = true)
    (named : s.directory ≠ "")
    (allowed : ∀ path e, (s.storeIn date seconds t).1 ≠ .error (.io path e)) :
    ∃ u location, t.createDirectories s.directory = (.ok (), u) ∧ u.Opens s.directory location ∧
      s.storeIn date seconds t = s.storeIn date seconds u := by
  rw [storeIn_of_finite s finite] at allowed ⊢
  rcases created : t.createDirectories s.directory with ⟨e | _, u⟩
  · rw [created] at allowed
    exact absurd rfl (allowed _ e)
  · rw [created] at allowed
    cases way : u.locate (s.path date) with
    | error e =>
      simp only [FileTree.write, way] at allowed
      exact absurd rfl (allowed _ e)
    | ok file =>
      obtain ⟨location, opens⟩ :=
        FileTree.opens_of_locate_join named (plainName_baselineName date).noSlash way
      refine ⟨u, location, rfl, opens, ?_⟩
      rw [storeIn_of_finite s finite, opens.createDirectories]

theorem follows_of_unused (unused : s.Unused t) : s.Follows (fun _ => none) t := by
  rcases unused.listed with missing | ⟨names, listed⟩
  · exact .inr ⟨unused, missing, rfl⟩
  · obtain ⟨location, opens, _⟩ := FileTree.list_eq_ok.mp listed
    exact .inl (Holds.of_unused unused opens.createDirectories opens)

theorem stored?_of_finite {seconds : Binary64} (finite : seconds.isFinite = true) (date : Date)
    (past : List Change) : stored? (.store date seconds :: past) =
      fun d => if date = d then some seconds else stored? past d := by
  funext d
  simp only [stored?, finite, true_and]

theorem stored?_of_not_finite {seconds : Binary64} (other : seconds.isFinite = false) (date : Date)
    (past : List Change) : stored? (.store date seconds :: past) = stored? past := by
  funext d
  simp [stored?, other]

theorem Follows.apply (named : s.directory ≠ "") {past : List Change}
    (follows : s.Follows (stored? past) t) {change : Change} (permitted : s.Permits t change) :
    s.Follows (stored? (change :: past)) (s.apply t change) := by
  cases change with
  | write name bytes =>
    obtain ⟨plain, undated⟩ := permitted
    rcases follows with holds | ⟨unused, missing, empty⟩
    · exact .inl (holds.write named plain undated bytes)
    · have same : s.apply t (.write name bytes) = t := by
        simp only [BaselineStore.apply, FileTree.write,
          FileTree.locate_of_missing named plain missing]
      rw [same]
      exact .inr ⟨unused, missing, empty⟩
  | store date seconds =>
    cases finite : seconds.isFinite with
    | false =>
      rw [stored?_of_not_finite finite, BaselineStore.apply, storeIn_of_not_finite s finite]
      exact follows
    | true =>
      rw [stored?_of_finite finite, BaselineStore.apply]
      left
      rcases follows with holds | ⟨unused, _, empty⟩
      · obtain ⟨v, written, holds⟩ := holds.store named date finite
        rw [written]
        exact holds
      · obtain ⟨u, location, created, opens, same⟩ := storeIn_of_created finite named permitted
        obtain ⟨v, written, holds⟩ := (Holds.of_unused unused created opens).store named date finite
        rw [same, written, empty]
        exact holds

theorem Follows.answers (named : s.directory ≠ "") (follows : s.Follows stored t) :
    s.Answers stored t := by
  rcases follows with holds | ⟨_, missing, rfl⟩
  · exact ⟨holds.load named, holds.latest named,
      fun date _ other => storeIn_of_not_finite s other date t⟩
  · refine ⟨fun date => ?_, ⟨none, ?_, fun _ => rfl⟩,
      fun date _ other => storeIn_of_not_finite s other date t⟩
    · have nowhere := FileTree.locate_of_missing named (plainName_baselineName date) missing
      rw [loadIn_eq, path, FileTree.read, nowhere]
      rfl
    · rw [latestIn_eq, missing]

/-- A directory that is missing or empty is unused, unless its path goes up: then its creation may
lead to a directory that has files. -/
theorem Unused.of_missing_or_empty (rooted : t.Rooted) (descends : ".." ∉ Files.pieces s.directory)
    (fresh : t.list s.directory = .error .notFound ∨ t.list s.directory = .ok []) : s.Unused t := by
  rcases fresh with missing | empty
  · refine ⟨.inl missing, fun names listed name member => ?_⟩
    obtain ⟨location, opens, rfl⟩ := FileTree.list_eq_ok.mp listed
    rw [FileTree.namesIn_of_created rooted descends missing opens] at member
    contradiction
  · refine ⟨.inr ⟨[], empty⟩, fun names listed name member => ?_⟩
    obtain ⟨location, opens, _⟩ := FileTree.list_eq_ok.mp empty
    rw [opens.createDirectories, empty] at listed
    cases listed
    contradiction

/-- A store in a named directory that was unused at first is a map from days to numbers. The path
must not be empty: numbers are stored in the working directory then, but not looked for there. -/
theorem answers_of_history {begun : FileTree} {past : List Change} (named : s.directory ≠ "")
    (unused : s.Unused begun) (history : s.History begun past t) : s.Answers (stored? past) t := by
  refine Follows.answers named ?_
  induction history with
  | begin => exact follows_of_unused unused
  | next _ _ permitted ih => exact ih.apply named permitted

def firstOfMay : Date := ⟨2024, 5, 1, by decide⟩

def lastOfMay : Date := ⟨2024, 5, 31, by decide⟩

def oneAndHalf : Binary64 := ⟨0x3ff8000000000000⟩

def mayChanges : List Change :=
  [.write "notes.txt" [], .store lastOfMay (.nan false), .store firstOfMay oneAndHalf]

def after (s : BaselineStore) (begun : FileTree) (changes : List Change) : FileTree :=
  changes.foldr (fun change t => s.apply t change) begun

theorem history_mayChanges {begun : FileTree} {path : String}
    (stores : (s.storeIn firstOfMay oneAndHalf begun).1 = .ok path) :
    s.History begun mayChanges (s.after begun mayChanges) := by
  refine .next (.next (.next .begin (.store firstOfMay oneAndHalf) ?_)
    (.store lastOfMay (.nan false)) ?_) (.write "notes.txt" []) ?_
  · intro path e failed
    rw [stores] at failed
    contradiction
  · intro path e failed
    rw [storeIn_of_not_finite _ (by decide)] at failed
    cases failed
  · exact ⟨⟨by decide, by decide, by decide, by decide⟩, by decide⟩

def homeTree : FileTree :=
  ⟨[⟨["home"], .directory, 0⟩], 1, ["home"]⟩

theorem rooted_homeTree : homeTree.Rooted := by
  intro location content present
  by_cases root : location = []
  · subst root
    rfl
  · rw [FileTree.content?_of_ne root] at present
    obtain ⟨e, found, -⟩ := Option.map_eq_some_iff.mp present
    have listed : e = ⟨["home"], .directory, 0⟩ :=
      List.mem_singleton.mp (List.mem_of_find?_eq_some found)
    have stands : e.location = location := by simpa using List.find?_some found
    rw [← stands, listed]
    rfl

theorem answers_mayChanges :
    ((⟨"store"⟩ : BaselineStore).directory ≠ "" ∧ Unused ⟨"store"⟩ homeTree ∧
      History ⟨"store"⟩ homeTree mayChanges (after ⟨"store"⟩ homeTree mayChanges) ∧
      (after ⟨"store"⟩ homeTree mayChanges).content?
        ["home", "store", "assumedbaseline_20240501.txt"] = some (baselineFile oneAndHalf) ∧
      Answers ⟨"store"⟩ (stored? mayChanges) (after ⟨"store"⟩ homeTree mayChanges)) ∧
    (⟨"/tmp/store"⟩ : BaselineStore).directory ≠ "" ∧ Unused ⟨"/tmp/store"⟩ homeTree ∧
      History ⟨"/tmp/store"⟩ homeTree mayChanges (after ⟨"/tmp/store"⟩ homeTree mayChanges) ∧
      (after ⟨"/tmp/store"⟩ homeTree mayChanges).content?
        ["tmp", "store", "assumedbaseline_20240501.txt"] = some (baselineFile oneAndHalf) ∧
      Answers ⟨"/tmp/store"⟩ (stored? mayChanges) (after ⟨"/tmp/store"⟩ homeTree mayChanges) := by
  have relative : (⟨"store"⟩ : BaselineStore).directory ≠ "" := by decide
  have absolute : (⟨"/tmp/store"⟩ : BaselineStore).directory ≠ "" := by decide
  have unused : Unused ⟨"store"⟩ homeTree :=
    .of_missing_or_empty rooted_homeTree (by decide +kernel) (.inl (by decide +kernel))
  have outsideUnused : Unused ⟨"/tmp/store"⟩ homeTree :=
    .of_missing_or_empty rooted_homeTree (by decide +kernel) (.inl (by decide +kernel))
  have stores : (storeIn ⟨"store"⟩ firstOfMay oneAndHalf homeTree).1 =
      .ok "store/assumedbaseline_20240501.txt" := by decide +kernel
  have outsideStores : (storeIn ⟨"/tmp/store"⟩ firstOfMay oneAndHalf homeTree).1 =
      .ok "/tmp/store/assumedbaseline_20240501.txt" := by decide +kernel
  have history := history_mayChanges stores
  have outsideHistory := history_mayChanges outsideStores
  exact ⟨⟨relative, unused, history, by decide +kernel, answers_of_history relative unused history⟩,
    absolute, outsideUnused, outsideHistory, by decide +kernel,
    answers_of_history absolute outsideUnused outsideHistory⟩

theorem not_answers_unnamed :
    Unused ⟨""⟩ {} ∧
      History ⟨""⟩ {} [.store firstOfMay oneAndHalf] (storeIn ⟨""⟩ firstOfMay oneAndHalf {}).2 ∧
      (loadIn ⟨""⟩ firstOfMay (storeIn ⟨""⟩ firstOfMay oneAndHalf {}).2).1 = .ok oneAndHalf ∧
      ¬ Answers ⟨""⟩ (stored? [.store firstOfMay oneAndHalf])
        (storeIn ⟨""⟩ firstOfMay oneAndHalf {}).2 := by
  have stores : (storeIn ⟨""⟩ firstOfMay oneAndHalf {}).1 =
      .ok "assumedbaseline_20240501.txt" := by decide +kernel
  refine ⟨⟨.inl rfl, nofun⟩, .next .begin _ ?_, by decide +kernel, ?_⟩
  · intro path e failed
    rw [stores] at failed
    contradiction
  · intro answers
    obtain ⟨found, latest, greatest⟩ := answers.latest
    have none : found = none := (Except.ok.inj (congrArg Prod.fst latest)).symm
    subst none
    have present := greatest firstOfMay
    contradiction

end BaselineStore

end RelayMesh.Measurement
