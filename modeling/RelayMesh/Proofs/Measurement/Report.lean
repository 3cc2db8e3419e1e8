import Mathlib.Data.List.Forall2
import RelayMesh.Measurement.Report
import RelayMesh.Proofs.Measurement.Sample
import RelayMesh.Proofs.Measurement.Summary

namespace RelayMesh.Measurement

def HasSample (log : Log) : Prop :=
  ∃ line ∈ Text.lines log.2, (sampleOfLine? line).isSome = true

instance : DecidablePred HasSample := fun log =>
  inferInstanceAs (Decidable (∃ line ∈ Text.lines log.2, (sampleOfLine? line).isSome = true))

/-- The second list is the first with logs inserted that have no sample. -/
inductive Inserted : List Log → List Log → Prop
  | nil : Inserted [] []
  | keep (log : Log) {logs more : List Log} (rest : Inserted logs more) :
      Inserted (log :: logs) (log :: more)
  | insert {log : Log} (empty : ¬ HasSample log) {logs more : List Log}
      (rest : Inserted logs more) : Inserted logs (log :: more)

theorem hasSample_iff {log : Log} : HasSample log ↔ samplesOfText log.2 ≠ [] := by
  rw [HasSample, samplesOfText, samplesOfLines, ne_eq, List.filterMap_eq_nil_iff]
  push Not
  simp only [Option.isSome_iff_ne_none]

section

variable {baseline : Option Binary64}

theorem reportOn?_nil : reportOn? baseline [] = none := by
  rw [reportOn?, summarize_nil]
  rfl

theorem reportOn?_ne_nil (baseline : Option Binary64) {samples : List Nat}
    (nonempty : samples ≠ []) :
    ∃ s, summarize? samples = some s ∧ reportOn? baseline samples = some (s.withBaseline baseline) ∧
      s.samples = samples.length := by
  obtain ⟨s, summary, count⟩ := exists_summary nonempty
  refine ⟨s, summary, ?_, count⟩
  rw [reportOn?, summary]
  rfl

theorem samples_reportOn? {samples : List Nat} {total : LatencyReport Binary64}
    (found : reportOn? baseline samples = some total) : total.samples = samples.length := by
  by_cases nonempty : samples = []
  · rw [nonempty, reportOn?_nil] at found
    contradiction
  · obtain ⟨s, _, report, count⟩ := reportOn?_ne_nil baseline nonempty
    rw [report] at found
    rw [← Option.some.inj found]
    exact count

def FileReport.IsOf (baseline : Option Binary64) (log : Log) (file : FileReport) : Prop :=
  file.name = log.1 ∧ ∃ s, summarize? (samplesOfLines (Text.lines log.2)) = some s ∧
    file.report = s.withBaseline baseline

theorem collect_of_sample (baseline : Option Binary64) {log : Log} (sample : HasSample log) :
    ∃ file : FileReport, file.IsOf baseline log ∧
      file.report.samples = (samplesOfText log.2).length ∧
      ∀ logs, collect baseline (log :: logs) =
        ⟨file :: (collect baseline logs).files, (collect baseline logs).skipped,
          samplesOfText log.2 ++ (collect baseline logs).samples⟩ := by
  obtain ⟨s, summary, report, count⟩ := reportOn?_ne_nil baseline (hasSample_iff.mp sample)
  refine ⟨⟨log.1, s.withBaseline baseline⟩, ⟨rfl, s, summary, rfl⟩, count, fun logs => ?_⟩
  simp only [collect, report]

theorem collect_of_empty {log : Log} (empty : ¬ HasSample log) (logs : List Log) :
    collect baseline (log :: logs) =
      { collect baseline logs with
        skipped := ⟨log.1, emptyMessage⟩ :: (collect baseline logs).skipped } := by
  have none : samplesOfText log.2 = [] := not_not.mp (mt hasSample_iff.mpr empty)
  simp only [collect, none, reportOn?_nil]

theorem files_collect (baseline : Option Binary64) (logs : List Log) :
    List.Forall₂ (FileReport.IsOf baseline) (logs.filter HasSample)
      (collect baseline logs).files := by
  induction logs with
  | nil => exact .nil
  | cons log logs ih =>
    by_cases sample : HasSample log
    · obtain ⟨file, is_of, _, collected⟩ := collect_of_sample baseline sample
      rw [List.filter_cons_of_pos (by simpa using sample), collected]
      exact .cons is_of ih
    · rw [List.filter_cons_of_neg (by simpa using sample), collect_of_empty sample]
      exact ih

theorem skipped_collect (baseline : Option Binary64) (logs : List Log) :
    (collect baseline logs).skipped =
      (logs.filter (¬ HasSample ·)).map fun log => ⟨log.1, emptyMessage⟩ := by
  induction logs with
  | nil => rfl
  | cons log logs ih =>
    by_cases sample : HasSample log
    · obtain ⟨_, _, _, collected⟩ := collect_of_sample baseline sample
      rw [List.filter_cons_of_neg (by simpa using sample), collected, ih]
    · rw [List.filter_cons_of_pos (by simpa using sample), collect_of_empty sample,
        List.map_cons, ← ih]

theorem samples_collect (baseline : Option Binary64) (logs : List Log) :
    (collect baseline logs).samples = logs.flatMap fun log => samplesOfText log.2 := by
  induction logs with
  | nil => rfl
  | cons log logs ih =>
    rw [List.flatMap_cons]
    by_cases sample : HasSample log
    · obtain ⟨_, _, _, collected⟩ := collect_of_sample baseline sample
      rw [collected, ← ih]
    · have none : samplesOfText log.2 = [] := not_not.mp (mt hasSample_iff.mpr sample)
      rw [collect_of_empty sample, none, List.nil_append, ← ih]

theorem length_samples_collect (baseline : Option Binary64) (logs : List Log) :
    (collect baseline logs).samples.length =
      ((collect baseline logs).files.map (·.report.samples)).sum := by
  induction logs with
  | nil => rfl
  | cons log logs ih =>
    by_cases sample : HasSample log
    · obtain ⟨file, _, count, collected⟩ := collect_of_sample baseline sample
      rw [collected, List.length_append, List.map_cons, List.sum_cons, count, ih]
    · rw [collect_of_empty sample, ih]

end

namespace MeasurementReport

structure Accounts (baseline : Option Binary64) (logs : List Log) (r : MeasurementReport) :
    Prop where
  files : List.Forall₂ (FileReport.IsOf baseline) (logs.filter HasSample) r.files
  skipped : r.skipped = (logs.filter (¬ HasSample ·)).map fun log => ⟨log.1, emptyMessage⟩
  once : r.files.length + r.skipped.length = logs.length
  aggregate : r.aggregate =
    (summarize? (logs.flatMap fun log => samplesOfLines (Text.lines log.2))).map
      (·.withBaseline baseline)
  count : ∀ total, r.aggregate = some total →
    total.samples = (r.files.map (·.report.samples)).sum
  empty : r.aggregate = none ↔ ∀ log ∈ logs, ¬ HasSample log
  inserted : ∀ more, Inserted logs more →
    (analyze baseline more).files = r.files ∧ (analyze baseline more).aggregate = r.aggregate

theorem aggregate_analyze (baseline : Option Binary64) (logs : List Log) :
    (analyze baseline logs).aggregate =
      reportOn? baseline (logs.flatMap fun log => samplesOfText log.2) :=
  congrArg (reportOn? baseline) (samples_collect baseline logs)

theorem aggregate_eq_none (baseline : Option Binary64) (logs : List Log) :
    (analyze baseline logs).aggregate = none ↔ ∀ log ∈ logs, ¬ HasSample log := by
  have no_samples : (logs.flatMap fun log => samplesOfText log.2) = [] ↔
      ∀ log ∈ logs, ¬ HasSample log := by
    simp only [List.flatMap_eq_nil_iff, hasSample_iff, ne_eq, not_not]
  rw [aggregate_analyze, ← no_samples]
  constructor
  · intro none
    by_contra nonempty
    obtain ⟨s, _, found, _⟩ := reportOn?_ne_nil baseline nonempty
    rw [none] at found
    contradiction
  · intro empty
    rw [empty, reportOn?_nil]

theorem collect_inserted (baseline : Option Binary64) {logs more : List Log}
    (inserted : Inserted logs more) :
    (collect baseline more).files = (collect baseline logs).files ∧
      (collect baseline more).samples = (collect baseline logs).samples := by
  induction inserted with
  | nil => exact ⟨rfl, rfl⟩
  | @keep log logs more _ ih =>
    by_cases sample : HasSample log
    · obtain ⟨file, _, _, collected⟩ := collect_of_sample baseline sample
      rw [collected, collected]
      exact ⟨congrArg (file :: ·) ih.1, congrArg (samplesOfText log.2 ++ ·) ih.2⟩
    · rw [collect_of_empty sample, collect_of_empty sample]
      exact ih
  | insert empty _ ih =>
    rw [collect_of_empty empty]
    exact ih

/-- The report on some logs loses none of them and counts none twice. -/
theorem analyze_accounts (baseline : Option Binary64) (logs : List Log) :
    Accounts baseline logs (analyze baseline logs) where
  files := files_collect baseline logs
  skipped := skipped_collect baseline logs
  once := by
    have files := (files_collect baseline logs).length_eq
    have skipped := congrArg List.length (skipped_collect baseline logs)
    have parts := logs.length_eq_length_filter_add HasSample
    rw [List.length_map] at skipped
    simp only [decide_not] at skipped
    change (collect baseline logs).files.length + (collect baseline logs).skipped.length = _
    omega
  aggregate := aggregate_analyze baseline logs
  count := by
    intro total found
    exact (samples_reportOn? found).trans (length_samples_collect baseline logs)
  empty := aggregate_eq_none baseline logs
  inserted := by
    intro more inserted
    obtain ⟨files, samples⟩ := collect_inserted baseline inserted
    exact ⟨files, congrArg (reportOn? baseline) samples⟩

end MeasurementReport

theorem samplesOfText_eq (text : List Char) :
    samplesOfText text = samplesOfLines (Text.splitOn '\n' text) :=
  ignoresReturn_sampleOfLine?.filterMap_lines text

@[simp] theorem samplesOfText_append (front back : List Char) :
    samplesOfText (front ++ '\n' :: back) = samplesOfText front ++ samplesOfText back := by
  simp only [samplesOfText_eq, samplesOfLines, Text.splitOn_append, List.filterMap_append]

theorem samplesOfText_intercalate (texts : List (List Char)) :
    samplesOfText (['\n'].intercalate texts) = texts.flatMap samplesOfText := by
  induction texts with
  | nil => rfl
  | cons text texts ih =>
    cases texts with
    | nil => simp
    | cons next texts =>
      rw [List.intercalate_cons_cons, List.append_assoc, List.singleton_append,
        samplesOfText_append, ih]
      exact List.flatMap_cons.symm

namespace MeasurementReport

theorem aggregate_congr (baseline : Option Binary64) {logs more : List Log}
    (same : (logs.flatMap fun log => samplesOfText log.2) =
      more.flatMap fun log => samplesOfText log.2) :
    (analyze baseline logs).aggregate = (analyze baseline more).aggregate := by
  rw [aggregate_analyze, aggregate_analyze, same]

/-- A log may be cut in two at any of its line feeds, and all logs may be joined to one, whatever
their names are. -/
theorem aggregate_of_any_spread (baseline : Option Binary64) :
    (∀ (before after : List Log) (name first second : String) (front back : List Char),
      (analyze baseline (before ++ (first, front) :: (second, back) :: after)).aggregate =
        (analyze baseline (before ++ (name, front ++ '\n' :: back) :: after)).aggregate) ∧
    ∀ (logs : List Log) (name : String),
      (analyze baseline [(name, ['\n'].intercalate (logs.map (·.2)))]).aggregate =
        (analyze baseline logs).aggregate := by
  constructor
  · intro before after name first second front back
    apply aggregate_congr
    simp
  · intro logs name
    apply aggregate_congr
    simp [samplesOfText_intercalate, List.flatMap_map]

end MeasurementReport

end RelayMesh.Measurement
