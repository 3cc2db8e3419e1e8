import RelayMesh.Proofs.Measurement.BaselineStore

/-!
The latest baseline is looked for under the name that its day gives it. A day can be told by other
names too, in which a sign stands in front of its key, so the file of the latest day that was seen
may be missing; then, and only then, no baseline is found although a day was seen.
-/

namespace RelayMesh.Measurement

open Files (FileTree Location join)

/-! ### Names that tell a day -/

theorem between?_eq_some_iff {beginning ending text inner : List Char} :
    between? beginning ending text = some inner ↔ text = beginning ++ inner ++ ending := by
  constructor
  · intro found
    rw [between?, Option.bind_eq_some_iff] at found
    obtain ⟨rest, front, found⟩ := found
    obtain ⟨reversed, back, rfl⟩ := Option.map_eq_some_iff.mp found
    rw [List.isPrefixOf?_eq_some_iff_append_eq] at front back
    have ends : rest = reversed.reverse ++ ending := by
      rw [← List.reverse_inj, List.reverse_append, List.reverse_reverse, back]
    rw [← front, ends, List.append_assoc]
  · rintro rfl
    exact between?_append ..

theorem baselineDate?_eq_some_iff {name : String} {d : Date} :
    baselineDate? name = some d ↔
      ∃ key, Date.ofKey? key = some d ∧ name = baselineBeginning ++ key ++ baselineEnding := by
  rw [baselineDate?, Option.bind_eq_some_iff]
  constructor
  · rintro ⟨key, named, dated⟩
    refine ⟨String.ofList key, by rwa [Date.ofKey?, String.toList_ofList], ?_⟩
    rw [← String.toList_inj, between?_eq_some_iff.mp named, String.toList_append,
      String.toList_append, String.toList_ofList]
  · rintro ⟨key, dated, rfl⟩
    refine ⟨key.toList, between?_eq_some_iff.mpr ?_, dated⟩
    rw [String.toList_append, String.toList_append]

def Newest (names : List String) (d : Date) : Prop :=
  (∃ name ∈ names, baselineDate? name = some d) ∧
    ∀ name ∈ names, ∀ e, baselineDate? name = some e → e.le d = true

theorem latest?_names_eq_some_iff {names : List String} {d : Date} :
    Date.latest? (names.filterMap baselineDate?) = some d ↔ Newest names d := by
  rw [Date.latest?_eq_some_iff, List.mem_filterMap, Newest]
  simp only [List.mem_filterMap]
  refine and_congr_right fun _ => ⟨fun greatest name listed e dated => ?_, ?_⟩
  · exact greatest e ⟨name, listed, dated⟩
  · rintro greatest e ⟨name, listed, dated⟩
    exact greatest name listed e dated

namespace BaselineStore

variable {s : BaselineStore} {t : FileTree} {path : String}

theorem secondsOfText_ne_notFound (file content : String) :
    secondsOfText file content ≠ .error (.notFound path) := by
  rw [secondsOfText]
  split
  · rintro ⟨⟩
  · split <;> rintro ⟨⟩

theorem named_of_opens {location : Location} (opens : t.Opens s.directory location) :
    s.directory ≠ "" := by
  intro empty
  have way := opens.way
  rw [empty] at way
  cases way

theorem loadIn_notFound_iff {location : Location} (opens : t.Opens s.directory location)
    (date : Date) : (s.loadIn date t).1 = .error (.notFound path) ↔
      path = s.path date ∧ baselineName date ∉ t.namesIn location := by
  have read := opens.read_join (named_of_opens opens) (plainName_baselineName date)
  rw [loadIn_eq, BaselineStore.path, FileTree.mem_namesIn, read]
  cases t.content? (location ++ [baselineName date]) with
  | none => simp [eq_comm]
  | some content =>
    refine iff_of_false ?_ (by simp)
    cases content with
    | directory => rintro ⟨⟩
    | file bytes =>
      dsimp only
      split
      · exact secondsOfText_ne_notFound _ _
      · rintro ⟨⟩

theorem latestIn_notFound_iff : (s.latestIn t).1 = .error (.notFound path) ↔
    ∃ names d, t.list s.directory = .ok names ∧ Newest names d ∧ baselineName d ∉ names ∧
      path = s.path d := by
  rw [latestIn_eq]
  cases listed : t.list s.directory with
  | error e => cases e <;> simp
  | ok names =>
    obtain ⟨location, opens, rfl⟩ := FileTree.list_eq_ok.mp listed
    dsimp only
    cases found : Date.latest? ((t.namesIn location).filterMap baselineDate?) with
    | none =>
      refine iff_of_false (by rintro ⟨⟩) ?_
      rintro ⟨_, d, same, newest, -⟩
      cases Except.ok.inj same
      rw [latest?_names_eq_some_iff.mpr newest] at found
      contradiction
    | some date =>
      have failed : ((s.loadIn date t).1.map fun seconds => some (date, seconds)) =
          .error (.notFound path) ↔ (s.loadIn date t).1 = .error (.notFound path) := by
        cases (s.loadIn date t).1 <;> simp [Except.map]
      dsimp only
      rw [failed, loadIn_notFound_iff opens]
      constructor
      · rintro ⟨here, missing⟩
        exact ⟨_, date, rfl, latest?_names_eq_some_iff.mp found, missing, here⟩
      · rintro ⟨_, d, same, newest, missing, here⟩
        cases Except.ok.inj same
        cases found.symm.trans (latest?_names_eq_some_iff.mpr newest)
        exact ⟨here, missing⟩

/-- Keys read back, and what else is read as a date is its key behind a sign that changes nothing.
So the baseline of a day that was seen is looked for in vain only if a name with such a sign tells
the day. -/
theorem keys_and_latest (s : BaselineStore) (t : FileTree) :
    (∀ d : Date, Date.ofKey? d.key = some d) ∧
      (∀ key d, Date.ofKey? key = some d ↔
        key = d.key ∨ (0 ≤ d.year ∧ key = "+" ++ d.key) ∨ (d.year = 0 ∧ key = "-" ++ d.key)) ∧
      (∀ path, (s.latestIn t).1 = .error (.notFound path) ↔
        ∃ names d, t.list s.directory = .ok names ∧ Newest names d ∧ baselineName d ∉ names ∧
          path = s.path d) ∧
      ((∀ names, t.list s.directory = .ok names → ∀ key d, Date.ofKey? key = some d →
          baselineBeginning ++ key ++ baselineEnding ∈ names → key = d.key) →
        ∀ path, (s.latestIn t).1 ≠ .error (.notFound path)) := by
  refine ⟨fun d => Date.ofKey?_eq_some_iff.mpr (.inl rfl), fun _ _ => Date.ofKey?_eq_some_iff,
    fun _ => latestIn_notFound_iff, ?_⟩
  intro canonical path lost
  obtain ⟨names, d, listed, ⟨⟨name, member, dated⟩, -⟩, missing, -⟩ := latestIn_notFound_iff.mp lost
  obtain ⟨key, read, rfl⟩ := baselineDate?_eq_some_iff.mp dated
  rw [canonical names listed key d read member] at member
  exact missing member

def endOfYear : Date := ⟨2023, 12, 31, by decide⟩

def startOfYear : Date := ⟨2024, 1, 1, by decide⟩

def plainTree : FileTree :=
  (FileTree.withFile {} "store/assumedbaseline_20231231.txt" [49]).withFile "store/notes.txt" []

theorem plainTree_keys_and_latest :
    (∀ names, plainTree.list "store" = .ok names → ∀ key d, Date.ofKey? key = some d →
        baselineBeginning ++ key ++ baselineEnding ∈ names → key = d.key) ∧
      (latestIn ⟨"store"⟩ plainTree).1 ≠ .error (.notFound "store/assumedbaseline_20231231.txt") := by
  have listed : plainTree.list "store" = .ok ["assumedbaseline_20231231.txt", "notes.txt"] := by
    decide +kernel
  have canonical : ∀ names, plainTree.list "store" = .ok names → ∀ key d,
      Date.ofKey? key = some d → baselineBeginning ++ key ++ baselineEnding ∈ names →
      key = d.key := by
    intro names same key d read member
    cases Except.ok.inj (listed.symm.trans same)
    have inner := between?_append baselineBeginning.toList baselineEnding.toList key.toList
    rw [← String.toList_append, ← String.toList_append] at inner
    simp only [List.mem_cons, List.not_mem_nil, or_false] at member
    rcases member with first | second
    · rw [first] at inner
      have spelled : key = "20231231" :=
        String.toList_inj.mp (Option.some.inj (inner.symm.trans (by decide)))
      subst spelled
      have date : Date.ofKey? "20231231" = some endOfYear := by decide
      cases read.symm.trans date
      decide
    · have untold : baselineDate? "notes.txt" = none := by decide
      have told := baselineDate?_eq_some_iff.mpr ⟨key, read, rfl⟩
      rw [second, untold] at told
      contradiction
  exact ⟨canonical, (keys_and_latest ⟨"store"⟩ plainTree).2.2.2 canonical _⟩

def signedTree : FileTree :=
  plainTree.withFile "store/assumedbaseline_+20240101.txt" [50]

/-- A signed key is read as a date that has another key. Its file is seen, another one is looked for,
and the baseline that is there does not count. -/
theorem not_opens_signed :
    Date.ofKey? "+20240101" = some startOfYear ∧ startOfYear.key ≠ "+20240101" ∧
      signedTree.list "store" =
        .ok ["assumedbaseline_20231231.txt", "notes.txt", "assumedbaseline_+20240101.txt"] ∧
      (loadIn ⟨"store"⟩ endOfYear signedTree).1 = .ok (.ofNat 1) ∧
      (latestIn ⟨"store"⟩ signedTree).1 =
        .error (.notFound "store/assumedbaseline_20240101.txt") := by
  exact ⟨by decide, by decide, by decide +kernel, by decide +kernel, by decide +kernel⟩

end BaselineStore

end RelayMesh.Measurement
