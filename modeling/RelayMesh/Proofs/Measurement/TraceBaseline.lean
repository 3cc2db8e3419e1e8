import Mathlib.Logic.Relation
import RelayMesh.Measurement.Trace
import RelayMesh.Proofs.Checked

/-!
What a baseline reads of a trace: for each element that it names, the readings of the records of this
element, in their order. How the elements are interleaved and all other records have no influence,
and the first thing that is missing decides the error.
-/

namespace RelayMesh.Measurement.TraceBaseline

variable {b : TraceBaseline} {rs ss : List TraceRecord}

def Names : TraceBaseline → String → Prop
  | .stageSum stages probe, element => element ∈ stages ∧ element ≠ probe
  | .probeDelta first second, element => element = first ∨ element = second

instance (b : TraceBaseline) (element : String) : Decidable (b.Names element) :=
  match b with
  | .stageSum .. => inferInstanceAs (Decidable (_ ∧ _))
  | .probeDelta .. => inferInstanceAs (Decidable (_ ∨ _))

/-- What a baseline reads of a record: processing times where stages are summed up, and otherwise
running times. -/
def reading? : TraceBaseline → TraceRecord → Option Nat
  | .stageSum .., r => r.time
  | .probeDelta .., r => some r.timestamp

def readings (b : TraceBaseline) (records : List TraceRecord) (element : String) : List Nat :=
  (records.filter (·.element == element)).filterMap b.reading?

/-- Two traces in which a baseline reads the same of each element that it names. -/
def Agree (b : TraceBaseline) (rs ss : List TraceRecord) : Prop :=
  ∀ element, b.Names element → b.readings rs element = b.readings ss element

/-- A single difference between two traces that a baseline does not see. -/
inductive Overlooks (b : TraceBaseline) : List TraceRecord → List TraceRecord → Prop where
  | exchange {r s : TraceRecord} (other : r.element ≠ s.element) (front back : List TraceRecord) :
      Overlooks b (front ++ r :: s :: back) (front ++ s :: r :: back)
  /-- There is one more record, of an element that is not named or without a reading. -/
  | insert {r : TraceRecord} (unread : ¬ b.Names r.element ∨ b.reading? r = none)
      (front back : List TraceRecord) : Overlooks b (front ++ back) (front ++ r :: back)
  | change {r s : TraceRecord} (element : r.element = s.element)
      (reading : b.reading? r = b.reading? s) (front back : List TraceRecord) :
      Overlooks b (front ++ r :: back) (front ++ s :: back)

/-- Two traces that differ in nothing but what a baseline does not see. -/
def Alike (b : TraceBaseline) : List TraceRecord → List TraceRecord → Prop :=
  Relation.EqvGen b.Overlooks

/-! ### Readings -/

theorem readings_append (b : TraceBaseline) (rs ss : List TraceRecord) (element : String) :
    b.readings (rs ++ ss) element = b.readings rs element ++ b.readings ss element := by
  rw [readings, List.filter_append, List.filterMap_append]
  rfl

theorem readings_cons (b : TraceBaseline) (r : TraceRecord) (rs : List TraceRecord)
    (element : String) :
    b.readings (r :: rs) element = b.readings [r] element ++ b.readings rs element :=
  b.readings_append [r] rs element

theorem readings_own (b : TraceBaseline) (r : TraceRecord) :
    b.readings [r] r.element = (b.reading? r).toList := by
  rw [readings, List.filter_cons, if_pos (beq_self_eq_true _)]
  cases reading : b.reading? r <;> simp [reading]

theorem readings_other {r : TraceRecord} {element : String} (other : r.element ≠ element) :
    b.readings [r] element = [] := by
  rw [readings, List.filter_cons_of_neg (by simpa using other)]
  rfl

theorem readings_eq_nil_iff {element : String} :
    b.readings rs element = [] ↔ ∀ r ∈ rs, r.element = element → b.reading? r = none := by
  simp [readings]

theorem timesOf_eq (stages : List String) (probe : String) (records : List TraceRecord) :
    timesOf records = (stageSum stages probe).readings records :=
  rfl

theorem timestampsOf_eq (first second : String) (records : List TraceRecord) :
    timestampsOf records = (probeDelta first second).readings records := by
  funext element
  exact (congrFun List.filterMap_eq_map _).symm

/-! ### Agreement is what no single difference breaks -/

theorem Overlooks.agree (overlooks : b.Overlooks rs ss) : b.Agree rs ss := by
  intro element named
  cases overlooks with
  | @exchange r s other front back =>
    have both : b.readings [r] element = [] ∨ b.readings [s] element = [] := by
      by_cases own : r.element = element
      · exact .inr (readings_other fun same => other (own.trans same.symm))
      · exact .inl (readings_other own)
    rw [readings_append, readings_append, readings_cons b r (s :: back), readings_cons b s back,
      readings_cons b s (r :: back), readings_cons b r back]
    rcases both with nothing | nothing <;> rw [nothing, List.nil_append, List.nil_append]
  | @insert r unread front back =>
    have nothing : b.readings [r] element = [] := by
      by_cases own : r.element = element
      · subst own
        rw [readings_own, unread.resolve_left (not_not_intro named), Option.toList_none]
      · exact readings_other own
    rw [readings_append, readings_append, readings_cons b r, nothing, List.nil_append]
  | @change r s own reading front back =>
    have same : b.readings [r] element = b.readings [s] element := by
      by_cases here : r.element = element
      · subst here
        rw [readings_own, own, readings_own, reading]
      · rw [readings_other here, readings_other (own ▸ here)]
    rw [readings_append, readings_append, readings_cons b r, readings_cons b s, same]

theorem Alike.agree (alike : b.Alike rs ss) : b.Agree rs ss := by
  induction alike with
  | rel _ _ overlooks => exact overlooks.agree
  | refl _ => exact fun _ _ => rfl
  | symm _ _ _ ih => exact fun element named => (ih element named).symm
  | trans _ _ _ _ _ first second =>
    exact fun element named => (first element named).trans (second element named)

theorem Alike.cons (r : TraceRecord) (alike : b.Alike rs ss) : b.Alike (r :: rs) (r :: ss) := by
  induction alike with
  | rel _ _ overlooks =>
    refine .rel _ _ ?_
    cases overlooks with
    | exchange other front back => exact .exchange other (r :: front) back
    | insert unread front back => exact .insert unread (r :: front) back
    | change element reading front back => exact .change element reading (r :: front) back
  | refl _ => exact .refl _
  | symm _ _ _ ih => exact .symm _ _ ih
  | trans _ _ _ _ _ first second => exact .trans _ _ _ first second

theorem alike_first {s : TraceRecord} {front : List TraceRecord}
    (first : ∀ q ∈ front, q.element ≠ s.element) (back : List TraceRecord) :
    b.Alike (front ++ s :: back) (s :: (front ++ back)) := by
  induction front with
  | nil => exact .refl _
  | cons q front ih =>
    obtain ⟨other, first⟩ := List.forall_mem_cons.mp first
    exact .trans _ _ _ ((ih first).cons q) (.rel _ _ (.exchange other [] (front ++ back)))

def Reads (b : TraceBaseline) (r : TraceRecord) : Prop :=
  b.Names r.element ∧ (b.reading? r).isSome = true

instance (b : TraceBaseline) (r : TraceRecord) : Decidable (b.Reads r) :=
  inferInstanceAs (Decidable (_ ∧ _))

theorem alike_filter (b : TraceBaseline) (rs : List TraceRecord) :
    b.Alike rs (rs.filter (b.Reads ·)) := by
  induction rs with
  | nil => exact .refl _
  | cons r rs ih =>
    by_cases reads : b.Reads r
    · rw [List.filter_cons, if_pos (decide_eq_true reads)]
      exact ih.cons r
    · have unread : ¬ b.Names r.element ∨ b.reading? r = none := by
        rw [← Option.not_isSome_iff_eq_none]
        exact not_and_or.mp reads
      rw [List.filter_cons, if_neg (by simpa using reads)]
      exact .trans _ _ _ (.symm _ _ (.rel _ _ (.insert unread [] rs))) ih

theorem exists_first {element : String} {v : Nat} {more : List Nat}
    (reads : ∀ s ∈ ss, b.Reads s) (begins : b.readings ss element = v :: more) :
    ∃ front s back, ss = front ++ s :: back ∧ s.element = element ∧ b.reading? s = some v ∧
      ∀ q ∈ front, q.element ≠ element := by
  induction ss with
  | nil => contradiction
  | cons s ss ih =>
    obtain ⟨read, reads⟩ := List.forall_mem_cons.mp reads
    by_cases own : s.element = element
    · obtain ⟨w, reading⟩ := Option.isSome_iff_exists.mp read.2
      rw [readings_cons, ← own, readings_own, reading] at begins
      obtain ⟨rfl, -⟩ := List.cons.inj begins
      exact ⟨[], s, ss, rfl, own, reading, fun _ member => absurd member List.not_mem_nil⟩
    · rw [readings_cons, readings_other own, List.nil_append] at begins
      obtain ⟨front, t, back, rfl, found⟩ := ih reads begins
      exact ⟨s :: front, t, back, rfl, found.1, found.2.1,
        List.forall_mem_cons.mpr ⟨own, found.2.2⟩⟩

theorem alike_of_agree_of_reads (all : ∀ r ∈ rs, b.Reads r) (others : ∀ s ∈ ss, b.Reads s)
    (agree : b.Agree rs ss) : b.Alike rs ss := by
  induction rs generalizing ss with
  | nil =>
    cases ss with
    | nil => exact .refl _
    | cons s ss =>
      have read := others s List.mem_cons_self
      have nothing := readings_eq_nil_iff.mp (agree s.element read.1).symm s List.mem_cons_self rfl
      exact absurd nothing (Option.isSome_iff_ne_none.mp read.2)
  | cons r rs ih =>
    obtain ⟨read, all⟩ := List.forall_mem_cons.mp all
    obtain ⟨v, reading⟩ := Option.isSome_iff_exists.mp read.2
    have begins := agree r.element read.1
    rw [readings_cons, readings_own, reading] at begins
    obtain ⟨front, s, back, rfl, own, same, first⟩ := exists_first others begins.symm
    have moved : b.Alike (front ++ s :: back) (r :: (front ++ back)) :=
      .trans _ _ _ (alike_first (fun q member => own ▸ first q member) back)
        (.rel _ _ (.change own (same.trans reading.symm) [] (front ++ back)))
    have rest : b.Agree rs (front ++ back) := by
      intro element named
      have both := (agree element named).trans (moved.agree element named)
      rw [readings_cons, readings_cons b r (front ++ back)] at both
      exact List.append_cancel_left both
    have remaining : ∀ t ∈ front ++ back, b.Reads t := by
      intro t member
      refine others t ?_
      rw [List.mem_append, List.mem_cons]
      exact (List.mem_append.mp member).imp_right .inr
    exact .trans _ _ _ ((ih all remaining rest).cons r) (.symm _ _ moved)

theorem agree_iff_alike : b.Agree rs ss ↔ b.Alike rs ss := by
  refine ⟨fun agree => ?_, Alike.agree⟩
  have reads (records : List TraceRecord) : ∀ r ∈ records.filter (b.Reads ·), b.Reads r :=
    fun r member => of_decide_eq_true (List.mem_filter.mp member).2
  have filtered : b.Agree (rs.filter (b.Reads ·)) (ss.filter (b.Reads ·)) := fun element named =>
    ((b.alike_filter rs).agree element named).symm.trans
      ((agree element named).trans ((b.alike_filter ss).agree element named))
  exact .trans _ _ _ (b.alike_filter rs)
    (.trans _ _ _ (alike_of_agree_of_reads (reads rs) (reads ss) filtered)
      (.symm _ _ (b.alike_filter ss)))

/-! ### Results -/

theorem compute_of_ne_nil (some : rs ≠ []) :
    b.compute rs = (nanosecondsIn rs b).map inSeconds := by
  obtain ⟨r, rs, rfl⟩ := List.exists_cons_of_ne_nil some
  rfl

theorem Agree.nanosecondsIn (agree : b.Agree rs ss) : nanosecondsIn rs b = nanosecondsIn ss b := by
  cases b with
  | stageSum stages probe =>
    have times : ∀ stage ∈ stages.filter (· != probe), stageTime rs stage = stageTime ss stage := by
      intro stage listed
      obtain ⟨member, other⟩ := List.mem_filter.mp listed
      have same := agree stage ⟨member, by simpa using other⟩
      rw [stageTime, stageTime, timesOf_eq stages probe, timesOf_eq stages probe, same]
    rw [TraceBaseline.nanosecondsIn, Checked.mapM_congr times]
    rfl
  | probeDelta first second =>
    have same := And.intro (agree first (.inl rfl)) (agree second (.inr rfl))
    rw [← timestampsOf_eq, ← timestampsOf_eq] at same
    rw [TraceBaseline.nanosecondsIn, same.1, same.2]
    rfl

theorem compute_congr (first : rs ≠ []) (second : ss ≠ []) (agree : b.Agree rs ss) :
    b.compute rs = b.compute ss := by
  rw [compute_of_ne_nil first, compute_of_ne_nil second, agree.nanosecondsIn]

/-! ### Errors -/

/-- What a baseline cannot do without. Stages are missed in their order. -/
inductive Fails : TraceBaseline → List TraceRecord → TraceError → Prop where
  | noData {b : TraceBaseline} : Fails b [] .noData
  | missingStage {records : List TraceRecord} {before after : List String} {stage probe : String}
      (some : records ≠ []) (asked : stage ≠ probe)
      (missing : ∀ r ∈ records, r.element = stage → r.time = none)
      (present : ∀ s ∈ before, s ≠ probe → ∃ r ∈ records, r.element = s ∧ r.time ≠ none) :
      Fails (.stageSum (before ++ stage :: after) probe) records (.missingStage stage)
  | noProbePairs {records : List TraceRecord} {first second : String} (some : records ≠ [])
      (missing : (∀ r ∈ records, r.element ≠ first) ∨ ∀ r ∈ records, r.element ≠ second) :
      Fails (.probeDelta first second) records (.noProbePairs first second)

theorem timesOf_eq_nil_iff {stage : String} :
    timesOf rs stage = [] ↔ ∀ r ∈ rs, r.element = stage → r.time = none :=
  readings_eq_nil_iff (b := .stageSum [] stage)

theorem timestampsOf_eq_nil_iff {element : String} :
    timestampsOf rs element = [] ↔ ∀ r ∈ rs, r.element ≠ element := by
  simp [timestampsOf]

theorem stageTime_error {stage : String} {e : TraceError} :
    stageTime rs stage = .error e ↔
      (∀ r ∈ rs, r.element = stage → r.time = none) ∧ e = .missingStage stage := by
  rw [← timesOf_eq_nil_iff, stageTime]
  split
  · rename_i missing
    simp [missing, eq_comm]
  · rename_i present
    exact iff_of_false nofun fun failed => present failed.1

theorem stageTime_ok {stage : String} :
    (∃ x, stageTime rs stage = .ok x) ↔ ∃ r ∈ rs, r.element = stage ∧ r.time ≠ none := by
  have failure : (∃ e, stageTime rs stage = .error e) ↔
      ∀ r ∈ rs, r.element = stage → r.time = none := by
    simp [stageTime_error]
  rw [← not_iff_not, ← Checked.exists_error_iff, failure]
  push Not
  rfl

theorem stages_error {stages : List String} {probe : String} {e : TraceError} :
    (stages.filter (· != probe)).mapM (stageTime rs) = .error e ↔
      ∃ before stage after, stages = before ++ stage :: after ∧ stage ≠ probe ∧
        (∀ s ∈ before, s ≠ probe → ∃ x, stageTime rs s = .ok x) ∧
        stageTime rs stage = .error e := by
  rw [Checked.mapM_error]
  constructor
  · rintro ⟨front, stage, back, split, passed, failed⟩
    obtain ⟨before, rest, rfl, rfl, others⟩ := List.filter_eq_append_iff.mp split
    obtain ⟨skipped, after, rfl, probes, asked, -⟩ := List.filter_eq_cons_iff.mp others
    refine ⟨before ++ skipped, stage, after, (List.append_assoc ..).symm, by simpa using asked, ?_,
      failed⟩
    intro s member other
    rcases List.mem_append.mp member with member | member
    · exact passed s (List.mem_filter.mpr ⟨member, by simpa using other⟩)
    · exact absurd (by simpa using probes s member) other
  · rintro ⟨before, stage, after, rfl, asked, passed, failed⟩
    refine ⟨before.filter (· != probe), stage, after.filter (· != probe), ?_, ?_, failed⟩
    · rw [List.filter_append, List.filter_cons_of_pos (by simpa using asked)]
    · intro s member
      obtain ⟨member, other⟩ := List.mem_filter.mp member
      exact passed s member (by simpa using other)

theorem nanosecondsIn_error (some : rs ≠ []) {e : TraceError} :
    nanosecondsIn rs b = .error e ↔ b.Fails rs e := by
  cases b with
  | stageSum stages probe =>
    have whole : nanosecondsIn rs (.stageSum stages probe) = .error e ↔
        (stages.filter (· != probe)).mapM (stageTime rs) = .error e := by
      rw [nanosecondsIn, Checked.bind_error]
      simp [pure, Except.pure]
    rw [whole, stages_error]
    constructor
    · rintro ⟨before, stage, after, rfl, asked, passed, failed⟩
      obtain ⟨missing, rfl⟩ := stageTime_error.mp failed
      exact .missingStage some asked missing fun s member other =>
        stageTime_ok.mp (passed s member other)
    · rintro (_ | ⟨-, asked, missing, present⟩)
      · exact absurd rfl some
      · exact ⟨_, _, _, rfl, asked, fun s member other => stageTime_ok.mpr (present s member other),
          stageTime_error.mpr ⟨missing, rfl⟩⟩
  | probeDelta first second =>
    have unpaired : deltas (timestampsOf rs first) (timestampsOf rs second) = [] ↔
        (∀ r ∈ rs, r.element ≠ first) ∨ ∀ r ∈ rs, r.element ≠ second := by
      rw [deltas, List.zipWith_eq_nil_iff, timestampsOf_eq_nil_iff, timestampsOf_eq_nil_iff]
    rw [nanosecondsIn]
    constructor
    · split
      · rintro ⟨⟩
        exact .noProbePairs some (unpaired.mp ‹_›)
      · rintro ⟨⟩
    · rintro (_ | _ | ⟨-, missing⟩)
      · exact absurd rfl some
      · rw [unpaired.mpr missing]

theorem compute_error {e : TraceError} : b.compute rs = .error e ↔ b.Fails rs e := by
  by_cases some : rs = []
  · subst some
    constructor
    · rintro ⟨⟩
      exact .noData
    · rintro (_ | ⟨some, -⟩ | ⟨some, -⟩)
      · rfl
      · exact absurd rfl some
      · exact absurd rfl some
  · rw [compute_of_ne_nil some, ← nanosecondsIn_error some]
    cases nanosecondsIn rs b <;> simp [Except.map]

/-- A baseline depends on nothing but the readings of the elements that it names, each in their own
order, and it is there unless something that it needs is missing. -/
theorem reads_named_only (b : TraceBaseline) :
    (∀ rs ss, rs ≠ [] → ss ≠ [] → b.Agree rs ss → b.compute rs = b.compute ss) ∧
      (∀ rs ss, b.Agree rs ss ↔ b.Alike rs ss) ∧
      (∀ rs e, b.compute rs = .error e ↔ b.Fails rs e) ∧
      ∀ rs, (∀ e, ¬ b.Fails rs e) → ∃ seconds, b.compute rs = .ok seconds := by
  refine ⟨fun _ _ => compute_congr, fun _ _ => agree_iff_alike, fun _ _ => compute_error, ?_⟩
  intro rs faultless
  by_contra none
  obtain ⟨e, failed⟩ := Checked.exists_error_iff.mpr none
  exact faultless e (compute_error.mp failed)

/-- Two stages, one of them listed twice, and a probe that is listed twice. -/
def twoStages : TraceBaseline :=
  .stageSum ["a", "p", "b", "p", "a"] "p"

def quietTrace : List TraceRecord :=
  [⟨1, "a", some 1⟩, ⟨2, "b", some 4⟩, ⟨3, "a", some 2⟩]

/-- The same readings in another order, at other times and among others. -/
def noisyTrace : List TraceRecord :=
  [⟨7, "b", some 4⟩, ⟨0, "a", none⟩, ⟨7, "a", some 1⟩, ⟨5, "p", some 6⟩, ⟨2, "a", some 2⟩,
    ⟨3, "c", some 5⟩]

theorem twoStages_reads_named_only :
    quietTrace ≠ [] ∧ noisyTrace ≠ [] ∧ twoStages.Agree quietTrace noisyTrace ∧
      twoStages.compute quietTrace = twoStages.compute noisyTrace ∧
      (∀ e, ¬ twoStages.Fails noisyTrace e) ∧
      ∃ seconds, twoStages.compute noisyTrace = .ok seconds := by
  obtain ⟨same, -, error, value⟩ := reads_named_only twoStages
  have agree : twoStages.Agree quietTrace noisyTrace := by
    rintro element ⟨listed, other⟩
    simp only [List.mem_cons, List.not_mem_nil, or_false] at listed
    rcases listed with rfl | rfl | rfl | rfl | rfl
    · rfl
    · contradiction
    · rfl
    · contradiction
    · rfl
  have computed : (twoStages.compute noisyTrace).isOk = true := by decide +kernel
  have faultless : ∀ e, ¬ twoStages.Fails noisyTrace e := by
    intro e fails
    rw [(error noisyTrace e).mpr fails] at computed
    contradiction
  exact ⟨by decide, by decide, agree, same _ _ (by decide) (by decide) agree, faultless,
    value noisyTrace faultless⟩

end RelayMesh.Measurement.TraceBaseline
